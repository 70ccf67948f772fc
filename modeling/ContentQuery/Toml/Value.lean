import ContentQuery.Text.Taking
import ContentQuery.Toml.Lexeme
import ContentQuery.Toml.Table

namespace ContentQuery.Toml
open Text

theorem skipGap_le (text : List Char) : (skipGap text).length ≤ text.length :=
  length_dropWhile_le isGap text

def takeAssignment (value : Taker Json) : Taker (List String × Json) := fun text => do
  let ⟨(key, rest), less⟩ ← shorter text <| do
    let (key, rest) ← takeKey text
    match rest with
    | '=' :: rest => some (key, skipGap rest)
    | _ => none
  let ⟨(value, rest), more⟩ ← value rest
  return ⟨((key, value), rest), Nat.lt_trans more less⟩

def takeWordOrText : Taker Json := fun text =>
  shorter text <| match text with
    | '"' :: _ | '\'' :: _ => (takeText text).map fun (text, rest) => (.str (String.ofList text), rest)
    | _ => (wordValue (text.takeWhile isWordChar)).map fun value => (value, text.dropWhile isWordChar)

-- `depth` counts the brackets that may still be opened. Arrays run over several
-- lines and may end in a comma, inline tables do neither.
def takeValue : (depth : Nat) → Taker Json
  | depth, text => match depth, text with
    | depth + 1, '[' :: rest =>
      shorter ('[' :: rest) <| match skipLines false rest with
        | ']' :: after => some (.arr [], after)
        | inside =>
          (takeSeparated (skipLines false) (skipLines_le false) true ']' (takeValue depth) inside).map
            fun taken => (.arr taken.1.1, taken.1.2)
    | depth + 1, '\x7b' :: rest =>
      shorter ('\x7b' :: rest) <| match skipGap rest with
        | '\x7d' :: after => some (.obj [], after)
        | inside => do
          let ⟨(lines, after), _⟩ ←
            takeSeparated skipGap skipGap_le false '\x7d' (takeAssignment (takeValue depth)) inside
          return (.obj (entriesJson (← addAll lines [])), after)
    | _, text => takeWordOrText text

end ContentQuery.Toml
