import ContentQuery.Text.CodeRanges

namespace ContentQuery.Text

-- The White_Space property.
def blankRanges : List (Nat × Nat) := [
  (0x9, 0xd), (0x20, 0x20), (0x85, 0x85), (0xa0, 0xa0), (0x1680, 0x1680), (0x2000, 0x200a),
  (0x2028, 0x2029), (0x202f, 0x202f), (0x205f, 0x205f), (0x3000, 0x3000)]

theorem blankRanges_rising : isRising 0 blankRanges := by decide

def isBlank (c : Char) : Bool := covers blankRanges c.toNat

def trimChars (text : List Char) : List Char :=
  ((text.dropWhile isBlank).reverse.dropWhile isBlank).reverse

def trim (text : String) : String := String.ofList (trimChars text.toList)

end ContentQuery.Text
