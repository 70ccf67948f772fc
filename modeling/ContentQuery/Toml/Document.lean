import ContentQuery.Toml.Value

namespace ContentQuery.Toml

inductive Line where
  | table (path : List String)
  | element (path : List String)
  | entry (key : List String) (value : Json)

def takeHeader (text : List Char) : Option (Line × List Char) :=
  match text with
  | '[' :: '[' :: rest => do
    let (path, rest) ← takeKey rest
    match rest with
    | ']' :: ']' :: rest => return (.element path, rest)
    | _ => none
  | '[' :: rest => do
    let (path, rest) ← takeKey rest
    match rest with
    | ']' :: rest => return (.table path, rest)
    | _ => none
  | _ => none

def takeLine (text : List Char) : Option (Line × List Char) :=
  match text with
  | '[' :: _ => takeHeader text
  | _ => (takeAssignment (takeValue greatestDepth) text).map fun ⟨((key, value), rest), _⟩ =>
    (.entry key value, rest)

def takeLines (text : List Char) : Option (List Line) :=
  let found := skipLines false text
  if found.isEmpty then some []
  else do
    let (line, rest) ← takeLine found
    let rest ← afterLine? rest
    if rest.length < text.length then
      let lines ← takeLines rest
      return line :: lines
    else none
termination_by text.length

structure Section where
  change : (lines : List (List String × Json)) → (name : String) → Entries → Option Entries
  path : List String
  lines : List (List String × Json)

def sections : List Line → List (List String × Json) × List Section
  | [] => ([], [])
  | .entry key value :: rest => ((key, value) :: (sections rest).1, (sections rest).2)
  | .table path :: rest => ([], ⟨openTable, path, (sections rest).1⟩ :: (sections rest).2)
  | .element path :: rest => ([], ⟨openElement, path, (sections rest).1⟩ :: (sections rest).2)

def Section.apply (entries : Entries) (part : Section) : Option Entries :=
  match part.path.getLast? with
  | none => none
  | some name => descend (part.change part.lines name) part.path.dropLast entries

def ofText? (text : String) : Option (OrderedMap Json) := do
  let text := match text.toList with
    | '\ufeff' :: rest => rest
    | text => text
  let (own, parts) := sections (← takeLines text)
  let entries ← parts.foldlM Section.apply (← addAll own [])
  return ⟨entriesJson entries⟩

end ContentQuery.Toml
