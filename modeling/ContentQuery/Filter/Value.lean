import ContentQuery.Decimal.Digits
import ContentQuery.Decimal.Reading
import ContentQuery.Json.Basic
import ContentQuery.QueryError
import ContentQuery.Text.Alphanumeric
import ContentQuery.Text.Spaces

namespace ContentQuery.Filter
open Text

structure Stop where
  what : Expectation
  rest : List Char
  deriving Repr, DecidableEq

abbrev Read (α : Type) := Except Stop (α × List Char)

def takeRun (keep : Char → Bool) (text : List Char) : Read (List Char) :=
  if (text.takeWhile keep).isEmpty then .error ⟨.run, text⟩
  else .ok (text.takeWhile keep, text.dropWhile keep)

theorem takeRun_shorter {keep : Char → Bool} {text : List Char} {taken : List Char × List Char}
    (read : takeRun keep text = .ok taken) : taken.2.length < text.length := by
  unfold takeRun at read
  split at read
  · cases read
  · rename_i filled
    cases read
    have whole := congrArg List.length (List.takeWhile_append_dropWhile (p := keep) (l := text))
    have : (text.takeWhile keep).length ≠ 0 := by simpa using filled
    simp only [List.length_append] at whole
    show (text.dropWhile keep).length < text.length
    omega

def isIdentifierChar (c : Char) : Bool := isAlphanumeric c || c == '_' || c == '-'

def isWordChar (c : Char) : Bool :=
  isAlphanumeric c || c == '_' || c == '-' || c == '.' || c == '/' || c == '@' || c == '+'

-- A double beyond the finite range has no JSON value but null.
def doubleValue (literal : Bool × Decimal) : Json :=
  match Double.ofDecimal literal.1 literal.2.significand literal.2.exponent with
  | some value => .num (.real value)
  | none => .null

def wordValue (word : List Char) : Json :=
  match (Decimal.integer? word).filter fun value =>
      Json.leastSigned ≤ value && value ≤ Json.greatestSigned with
  | some value => Json.int value
  | none =>
    match if word.contains '.' then Decimal.literal? word else none with
    | some literal => doubleValue literal
    | none =>
      if word = ['t', 'r', 'u', 'e'] then .bool true
      else if word = ['f', 'a', 'l', 's', 'e'] then .bool false
      else .str (String.ofList word)

def takeWord (text : List Char) : Read Json :=
  (takeRun isWordChar text).map fun (word, rest) => (wordValue word, rest)

def takeQuoted (quote : Char) (text : List Char) : Option (Json × List Char) :=
  match text.dropWhile (· != quote) with
  | [] => none
  | _ :: rest => some (.str (String.ofList (text.takeWhile (· != quote))), rest)

-- A quote that never closes is no word either, so both failures are the word's.
def takeItem (text : List Char) : Read Json :=
  match text with
  | '\'' :: rest => match takeQuoted '\'' rest with
    | some taken => .ok taken
    | none => takeWord text
  | '"' :: rest => match takeQuoted '"' rest with
    | some taken => .ok taken
    | none => takeWord text
  | _ => takeWord text

theorem takeWord_shorter {text rest : List Char} {value : Json}
    (taken : takeWord text = .ok (value, rest)) : rest.length < text.length := by
  unfold takeWord at taken
  cases run : takeRun isWordChar text with
  | error stop => simp [run, Except.map] at taken
  | ok pair =>
    simp only [run, Except.map, Except.ok.injEq, Prod.mk.injEq] at taken
    exact taken.2 ▸ takeRun_shorter run

theorem takeQuoted_shorter {quote : Char} {text rest : List Char} {value : Json}
    (taken : takeQuoted quote text = some (value, rest)) : rest.length < text.length := by
  unfold takeQuoted at taken
  have bound := length_dropWhile_le (· != quote) text
  split at taken
  · cases taken
  · rename_i closing
    cases taken
    rw [closing, List.length_cons] at bound
    omega

theorem takeItem_shorter {text rest : List Char} {value : Json}
    (taken : takeItem text = .ok (value, rest)) : rest.length < text.length := by
  unfold takeItem at taken
  split at taken
  · split at taken
    · rename_i quoted
      cases taken
      have := takeQuoted_shorter quoted
      simp only [List.length_cons]
      omega
    · exact takeWord_shorter taken
  · split at taken
    · rename_i quoted
      cases taken
      have := takeQuoted_shorter quoted
      simp only [List.length_cons]
      omega
    · exact takeWord_shorter taken
  · exact takeWord_shorter taken

-- Further items behind commas. A comma that no item follows is not taken.
def takeMore (text : List Char) : List Json × List Char :=
  match comma : skipSpace text with
  | ',' :: after =>
    match item : takeItem (skipSpace after) with
    | .error _ => ([], text)
    | .ok (value, rest) =>
      have : rest.length < text.length := by
        have := takeItem_shorter item
        have := skipSpace_le after
        have := skipSpace_le text
        simp only [comma, List.length_cons] at this
        omega
      let (more, rest) := takeMore rest
      (value :: more, rest)
  | _ => ([], text)
termination_by text.length

def takeItems (text : List Char) : List Json × List Char :=
  match takeItem text with
  | .error _ => ([], text)
  | .ok (value, rest) =>
    let (more, rest) := takeMore rest
    (value :: more, rest)

def takeList (text : List Char) : Option (Json × List Char) :=
  match text with
  | '[' :: rest =>
    let (items, rest) := takeItems (skipSpace rest)
    match skipSpace rest with
    | ']' :: rest => some (.arr items, rest)
    | _ => none
  | _ => none

def takeValue (text : List Char) : Read Json :=
  let text := skipSpace text
  match takeList text with
  | some taken => .ok taken
  | none => takeItem text

end ContentQuery.Filter
