import ContentQuery.Json.Basic
import ContentQuery.OrderedMap
import ContentQuery.Vocabulary

namespace ContentQuery

inductive ClauseEntry where
  | comparison (key : String) (value : Json) (compare comparator : String)
  | taxonomy (name field : String) (terms : Json) (includeChildren : Bool) (operator : String)
  | group (entries : List ClauseEntry) (relation : Option Relation)
  deriving Repr

structure ClauseList where
  entries : List ClauseEntry
  relation : Option Relation
  deriving Repr

namespace ClauseList

-- The relation counts as a member.
def size (list : ClauseList) : Nat := list.entries.length + list.relation.toList.length

def isEmpty (list : ClauseList) : Bool := list.size == 0

end ClauseList

mutual

def ClauseEntry.toJson : ClauseEntry → Json
  | .comparison key value compare comparator =>
    .obj [("key", .str key), ("value", value), ("compare", .str compare),
      ("type", .str comparator)]
  | .taxonomy name field terms includeChildren operator =>
    .obj [("taxonomy", .str name), ("field", .str field), ("terms", terms),
      ("include_children", .bool includeChildren), ("operator", .str operator)]
  | .group entries relation => .obj (ClauseEntry.members 0 entries relation)

def ClauseEntry.members (position : Nat) (entries : List ClauseEntry) (relation : Option Relation) :
    List (String × Json) :=
  match entries with
  | [] => relation.toList.map fun relation => ("relation", .str relation.token)
  | entry :: rest =>
    (toString position, entry.toJson) :: ClauseEntry.members (position + 1) rest relation

end

def ClauseList.toJson (list : ClauseList) : Json :=
  .obj (ClauseEntry.members 0 list.entries list.relation)

inductive Argument where
  | value (value : Json)
  | clauses (list : ClauseList)
  deriving Repr

namespace Argument

def value? : Argument → Option Json
  | .value held => some held
  | .clauses _ => none

def clauses? : Argument → Option ClauseList
  | .clauses held => some held
  | .value _ => none

def toJson : Argument → Json
  | .value held => held
  | .clauses held => held.toJson

end Argument

abbrev Arguments := OrderedMap Argument

namespace Arguments

def value? (arguments : Arguments) (name : String) : Option Json :=
  (arguments.get? name).bind Argument.value?

def clauses? (arguments : Arguments) (name : String) : Option ClauseList :=
  (arguments.get? name).bind Argument.clauses?

def insertValue (arguments : Arguments) (name : String) (value : Json) : Arguments :=
  arguments.insert name (.value value)

def toJson (arguments : Arguments) : Json :=
  .obj (arguments.entries.map fun entry => (entry.1, entry.2.toJson))

end Arguments
end ContentQuery
