namespace ContentQuery.Text

-- The four characters that may stand between the parts of a filter or of a JSON
-- text. Other blanks are not spaces.
def isSpace (c : Char) : Bool := c == ' ' || c == '\t' || c == '\r' || c == '\n'

def skipSpace (text : List Char) : List Char := text.dropWhile isSpace

theorem length_dropWhile_le (drop : Char → Bool) (text : List Char) :
    (text.dropWhile drop).length ≤ text.length := by
  induction text with
  | nil => simp
  | cons c rest ih =>
    by_cases h : drop c <;> simp [h]
    omega

theorem skipSpace_le (text : List Char) : (skipSpace text).length ≤ text.length :=
  length_dropWhile_le isSpace text

end ContentQuery.Text
