import ContentQuery.Clause.Meta
import ContentQuery.Clause.Plain
import ContentQuery.Clause.Taxonomy
import ContentQuery.OrderedMap

namespace ContentQuery

inductive Binding where
  | value (value : Json)
  | plain (clauses : List PlainClause)
  | metas (nodes : List MetaNode)
  | taxonomies (nodes : List TaxonomyNode)
  | relations (relations : LevelRelations)
  deriving Repr

namespace Binding

def value? : Binding → Option Json
  | .value held => some held
  | _ => none

def plain? : Binding → Option (List PlainClause)
  | .plain held => some held
  | _ => none

def relations? : Binding → Option LevelRelations
  | .relations held => some held
  | _ => none

-- What a name holds after one more binding is added to it. Clause lists of one
-- kind grow, values gather in an array, and anything else gives way.
def joined : Option Binding → Binding → Binding
  | none, .value added => .value (.arr [added])
  | some (.value (.arr items)), .value added => .value (.arr (items ++ [added]))
  | some (.value first), .value added => .value (.arr [first, added])
  | some (.plain clauses), .plain added => .plain (clauses ++ added)
  | some (.metas nodes), .metas added => .metas (nodes ++ added)
  | some (.taxonomies nodes), .taxonomies added => .taxonomies (nodes ++ added)
  | _, added => added

end Binding

abbrev Bindings := OrderedMap Binding

namespace Bindings

def append (bindings : Bindings) (name : String) (binding : Binding) : Bindings :=
  bindings.alter name fun held => Binding.joined held binding

end Bindings
end ContentQuery
