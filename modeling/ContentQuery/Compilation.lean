import ContentQuery.Argument
import ContentQuery.Binding
import ContentQuery.Coercion

namespace ContentQuery

abbrev Lookup := String → Option Json

namespace Compilation

variable {α : Type}

def entryOf (leaf : α → ClauseEntry) : Node α → ClauseEntry
  | .clause clause => leaf clause
  | .group relation _ nodes => .group (entriesOf nodes) (some relation)
where
  entriesOf : List (Node α) → List ClauseEntry
  | [] => []
  | node :: rest => entryOf leaf node :: entriesOf rest

def metaEntry (clause : MetaClause) : ClauseEntry :=
  .comparison clause.column clause.value clause.operator clause.comparator

def taxonomyEntry (clause : TaxonomyClause) : ClauseEntry :=
  .taxonomy clause.taxonomy clause.field clause.terms clause.includeChildren clause.operator

-- Anything but a clause list gives way to one.
def heldList (held : Option Argument) : ClauseList := (held.bind Argument.clauses?).getD ⟨[], none⟩

def addEntries (arguments : Arguments) (name : String) (entries : List ClauseEntry) : Arguments :=
  arguments.alter name fun held =>
    .clauses { heldList held with entries := (heldList held).entries ++ entries }

def setRelation (arguments : Arguments) (name : String) (relation : Relation) : Arguments :=
  arguments.alter name fun held => .clauses { heldList held with relation := some relation }

def addRelations (arguments : Arguments) (name : String) (relations : LevelRelations) : Arguments :=
  match relations.lowest with
  | some relation => setRelation arguments name relation
  | none => arguments

-- A binding of a compiled name in a shape that the name does not have adds nothing.
def addCompiled (arguments : Arguments) (name : String) (binding : Binding) : Arguments :=
  match binding with
  | .plain clauses =>
    if name = Vocabulary.plainClauses then
      clauses.foldl (fun arguments clause => arguments.insertValue clause.column clause.value)
        arguments
    else arguments
  | .value value =>
    if name = Vocabulary.limit then
      arguments.insertValue Vocabulary.pageSize (Coercion.integer.apply value)
    else arguments
  | .metas nodes =>
    if name = Vocabulary.metaClauses then
      addEntries arguments Vocabulary.metaQuery (nodes.map (entryOf metaEntry))
    else arguments
  | .taxonomies nodes =>
    if name = Vocabulary.taxonomyClauses then
      addEntries arguments Vocabulary.taxonomyQuery (nodes.map (entryOf taxonomyEntry))
    else arguments
  | .relations relations =>
    if name = Vocabulary.metaRelation then
      addRelations arguments Vocabulary.metaQuery relations
    else if name = Vocabulary.taxonomyRelation then
      addRelations arguments Vocabulary.taxonomyQuery relations
    else arguments

def addBinding (arguments : Arguments) (name : String) (binding : Binding) : Arguments :=
  if name = Vocabulary.postType then arguments
  else if Vocabulary.isCompiled name then addCompiled arguments name binding
  else if Vocabulary.isArgument name then
    match binding with
    | .value value => arguments.insertValue name value
    | _ => arguments
  else arguments

def wantsEveryType : Json → Bool
  | .null => true
  | .str name => name == "" || name == Vocabulary.wildcard
  | .arr items => items.isEmpty
  | _ => false

def postType (bindings : Bindings) : Json :=
  match (bindings.get? Vocabulary.postType).bind Binding.value? with
  | some value => if wantsEveryType value then .str Vocabulary.any else value
  | none => .str Vocabulary.any

def addDefault (lookup : Lookup) (arguments : Arguments) (name : String) : Arguments :=
  match lookup name with
  | some value => arguments.insertValue name value
  | none => arguments

def defaults (lookup : Lookup) : Arguments :=
  Vocabulary.arguments.foldl (addDefault lookup) .empty

end Compilation

-- Defaults first, then the post type, then the bindings in their order. A later
-- write replaces an earlier one.
def compile (lookup : Lookup) (bindings : Bindings) : Arguments :=
  let start := (Compilation.defaults lookup).insertValue Vocabulary.postType
    (Compilation.postType bindings)
  bindings.entries.foldl (fun arguments entry => Compilation.addBinding arguments entry.1 entry.2)
    start

end ContentQuery
