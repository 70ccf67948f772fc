import ContentQuery.Filter.Expression
import ContentQuery.Filter.Value
import ContentQuery.Text.Blank

namespace ContentQuery.Filter
open Text

def symbols : List (List Char) := [['>', '='], ['<', '='], ['!', '='], ['='], ['>'], ['<']]

def words : List (List Char) :=
  ["NOT BETWEEN".toList, "NOT EXISTS".toList, "NOT REGEXP".toList, "NOT LIKE".toList,
    "NOT IN".toList, "BETWEEN".toList, "EXISTS".toList, "REGEXP".toList, "RLIKE".toList,
    "LIKE".toList, "AND".toList, "IN".toList]

def after? : List Char → List Char → Option (List Char)
  | [], text => some text
  | _ :: _, [] => none
  | t :: token, c :: text => if c.toUpper = t then after? token text else none

def takeToken (tokens : List (List Char)) (text : List Char) : Option (List Char × List Char) :=
  tokens.findSome? fun token => (after? token text).map fun rest => (token, rest)

def endsWord : List Char → Bool
  | [] => false
  | c :: _ => isSpace c || c == '['

-- The first word that fits is taken, and then it has to end there.
def takeOperator (text : List Char) : Read String :=
  match takeToken symbols text with
  | some (symbol, rest) => .ok (String.ofList symbol, rest)
  | none =>
    match takeToken words text with
    | none => .error ⟨.word, text⟩
    | some (word, rest) =>
      if endsWord rest then .ok (String.ofList word, rest) else .error ⟨.word, rest⟩

def takeIdentifier (text : List Char) : Read String :=
  (takeRun isIdentifierChar text).map fun (run, rest) => (String.ofList run, rest)

def takeOperation (text : List Char) : Except Stop ((String × Json) × List Char) := do
  let (operator, rest) ← takeOperator (skipSpace text)
  let (value, rest) ← takeValue rest
  return ((operator, value), rest)

def takeComparison (text : List Char) : Except Stop (Comparison × List Char) := do
  let (target, rest) ← takeIdentifier text
  let ((operator, value), rest) ← takeOperation rest
  return (⟨target, operator, value⟩, rest)

-- Two colons without an identifier behind them are left where they are.
def takeComparator (text : List Char) : Option String × List Char :=
  match text with
  | ':' :: ':' :: rest =>
    match takeIdentifier rest with
    | .ok (name, rest) => (some name, rest)
    | .error _ => (none, text)
  | _ => (none, text)

def takeMetaComparison (text : List Char) : Except Stop (MetaComparison × List Char) := do
  let (comparison, rest) ← takeComparison text
  let (comparator, rest) := takeComparator rest
  return (⟨comparison, comparator⟩, rest)

def takeDot : List Char → Read Unit
  | '.' :: rest => .ok ((), rest)
  | text => .error ⟨.character, text⟩

def takeTerms (text : List Char) : Read Json :=
  match text with
  | c :: _ => if isSpace c then takeValue text else .error ⟨.blank, text⟩
  | [] => .error ⟨.blank, text⟩

def takeTermMatch (text : List Char) : Except Stop (TermMatch × List Char) := do
  let (taxonomy, rest) ← takeIdentifier text
  let (_, rest) ← takeDot rest
  let (field, rest) ← takeIdentifier rest
  match takeOperation rest with
  | .ok ((operator, terms), rest) => return (⟨taxonomy, field, some operator, terms⟩, rest)
  | .error _ =>
    let (terms, rest) ← takeTerms rest
    return (⟨taxonomy, field, none, terms⟩, rest)

def byteLength : List Char → Nat
  | [] => 0
  | c :: rest => c.utf8Size + byteLength rest

-- Blanks around the text do not count, and nothing may be left over. Positions
-- are what has been read, in bytes.
def whole {α : Type} (read : List Char → Read α) (text : List Char) : Except QueryError α :=
  let text := trimChars text
  let position (rest : List Char) := byteLength text - byteLength rest
  match read text with
  | .ok (value, []) => .ok value
  | .ok (_, rest) => .error (.trailing (position rest) (String.ofList rest))
  | .error stop => .error (.expected (position stop.rest) stop.what)

def readComparison (text : String) : Except QueryError Comparison :=
  whole takeComparison text.toList

def readMetaComparison (text : String) : Except QueryError MetaComparison :=
  whole takeMetaComparison text.toList

def readTermMatch (text : String) : Except QueryError TermMatch :=
  whole takeTermMatch text.toList

end ContentQuery.Filter
