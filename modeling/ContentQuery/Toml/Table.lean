import ContentQuery.Json.Basic
import ContentQuery.OrderedMap

namespace ContentQuery.Toml

-- How a table came to be: under its own header, as a step on the way to another
-- header, or as a step of a dotted key.
inductive Origin where
  | header
  | implied
  | dotted
  deriving Repr, DecidableEq

inductive Item where
  | value (value : Json)
  | table (origin : Origin) (entries : List (String × Item))
  | tables (elements : List (List (String × Item)))

abbrev Entries := List (String × Item)

mutual

def Item.toJson : Item → Json
  | .value value => value
  | .table _ entries => .obj (entriesJson entries)
  | .tables elements => .arr (elementsJson elements)

def entriesJson : List (String × Item) → List (String × Json)
  | [] => []
  | (name, item) :: rest => (name, item.toJson) :: entriesJson rest

def elementsJson : List (List (String × Item)) → List Json
  | [] => []
  | entries :: rest => .obj (entriesJson entries) :: elementsJson rest

end

def put (entries : Entries) (name : String) (item : Item) : Entries :=
  OrderedMap.upsert name (fun _ => item) entries

def changeLast (change : Entries → Option Entries) (elements : List Entries) :
    Option (List Entries) :=
  match elements.getLast? with
  | none => none
  | some last => (change last).map fun last => elements.dropLast ++ [last]

-- Writes a value under a dotted key. `mayWrite` says that the table reached so far
-- takes values here: it is the one whose lines are read, or it was begun by a
-- dotted key. Nothing is written twice, and a table with a header of its own is
-- out of reach.
def addDotted (value : Json) : (mayWrite : Bool) → List String → Entries → Option Entries
  | _, [], _ => none
  | mayWrite, [name], entries =>
    if mayWrite && (entries.lookup name).isNone then some (entries ++ [(name, .value value)])
    else none
  | _, name :: path, entries =>
    match entries.lookup name with
    | none => (addDotted value true path []).map fun inner => put entries name (.table .dotted inner)
    | some (.table .header _) => none
    | some (.table origin inner) =>
      (addDotted value (origin == .dotted) path inner).map fun inner =>
        put entries name (.table origin inner)
    | some (.tables elements) =>
      (changeLast (addDotted value false path) elements).map fun elements =>
        put entries name (.tables elements)
    | some (.value _) => none

def addAll (lines : List (List String × Json)) (entries : Entries) : Option Entries :=
  lines.foldlM (fun entries line => addDotted line.2 true line.1 entries) entries

def descend (change : Entries → Option Entries) : List String → Entries → Option Entries
  | [], entries => change entries
  | name :: path, entries =>
    match entries.lookup name with
    | none => (descend change path []).map fun inner => put entries name (.table .implied inner)
    | some (.table origin inner) =>
      (descend change path inner).map fun inner => put entries name (.table origin inner)
    | some (.tables elements) =>
      (changeLast (descend change path) elements).map fun elements =>
        put entries name (.tables elements)
    | some (.value _) => none

-- A header opens a table once. An implied one is opened again, and moves to the
-- end of its parent.
def openTable (lines : List (List String × Json)) (name : String) (entries : Entries) :
    Option Entries :=
  let others := entries.filter fun entry => entry.1 != name
  match entries.lookup name with
  | none => (addAll lines []).map fun inner => others ++ [(name, .table .header inner)]
  | some (.table .implied inner) =>
    (addAll lines inner).map fun inner => others ++ [(name, .table .header inner)]
  | some _ => none

def openElement (lines : List (List String × Json)) (name : String) (entries : Entries) :
    Option Entries := do
  let element ← addAll lines []
  match entries.lookup name with
  | none => return entries ++ [(name, .tables [element])]
  | some (.tables elements) => return put entries name (.tables (elements ++ [element]))
  | some _ => none

end ContentQuery.Toml
