import ContentQuery.Clause.Operator
import ContentQuery.Clause.Tree
import ContentQuery.Filter.Expression

namespace ContentQuery

structure TaxonomyFilter where
  taxonomy : String
  field : Option String := none
  operator : Option Json := none
  value : Option Json := none
  includeChildren : Bool := true
  deriving Repr, DecidableEq

structure TaxonomyClause where
  taxonomy : String
  field : String
  operator : String
  terms : Json
  includeChildren : Bool
  level : Nat
  deriving Repr, DecidableEq

abbrev TaxonomyNode := Node TaxonomyClause

def TaxonomyFilter.clause (level : Nat) (filter : TaxonomyFilter) : TaxonomyClause :=
  let (operator, value) := Clause.positional "IN" filter.operator filter.value
  let (token, terms) := Clause.corrected Vocabulary.taxonomyOperator? "IN" operator value
  let field := (filter.field.bind Vocabulary.taxonomyField?).getD "term_id"
  ⟨filter.taxonomy, field, token, terms, filter.includeChildren, level⟩

inductive TaxonomyCall where
  | add (filter : Placed TaxonomyFilter)
  | addOr (filter : Placed TaxonomyFilter)
  | addAt (filter : Nat → Placed TaxonomyFilter)
  | relate (name : String)
  | select (taxonomy : String)
  | matching (field : String) (terms : Json)
  | nest (calls : List TaxonomyCall)

namespace TaxonomyCall

def slug (terms : Json) : TaxonomyCall := .matching "slug" terms
def name (terms : Json) : TaxonomyCall := .matching "name" terms
def termTaxonomyId (terms : Json) : TaxonomyCall := .matching "term_taxonomy_id" terms
def id (terms : Json) : TaxonomyCall := .matching "term_id" terms

def selectedTerms (selected : Option String) (field : String) (terms : Json) : Placed TaxonomyFilter :=
  { filter := { taxonomy := selected.getD "", field := some field, operator := some terms } }

-- A selection holds up to the next one in the same context. A nested context
-- starts with none.
def expand (selected : Option String) : List TaxonomyCall → List (ScopeCall TaxonomyFilter)
  | [] => []
  | .add filter :: rest => .add filter :: expand selected rest
  | .addOr filter :: rest => .addOr filter :: expand selected rest
  | .addAt filter :: rest => .addAt filter :: expand selected rest
  | .relate name :: rest => .relate name :: expand selected rest
  | .select taxonomy :: rest => expand (some taxonomy) rest
  | .matching field terms :: rest => .add (selectedTerms selected field terms) :: expand selected rest
  | .nest calls :: rest => .nest (expand none calls) :: expand selected rest

end TaxonomyCall

inductive TaxonomyInput where
  | single (filter : Placed TaxonomyFilter)
  | several (inputs : List TaxonomyInput)
  | scope (selected : Option String) (calls : List TaxonomyCall) (relation : Option String)

namespace TaxonomyInput

mutual

def withRelation (name : String) : TaxonomyInput → TaxonomyInput
  | .single filter => .single { filter with relation := some name }
  | .several inputs => .several (withRelations name inputs)
  | .scope selected calls _ => .scope selected calls (some name)

def withRelations (name : String) : List TaxonomyInput → List TaxonomyInput
  | [] => []
  | input :: rest => input.withRelation name :: withRelations name rest

end

mutual

def expand : TaxonomyInput → Input TaxonomyFilter
  | .single filter => .single filter
  | .several inputs => .several (expandAll inputs)
  | .scope selected calls relation => .scope (TaxonomyCall.expand selected calls) relation

def expandAll : List TaxonomyInput → List (Input TaxonomyFilter)
  | [] => []
  | input :: rest => input.expand :: expandAll rest

end

def build (input : TaxonomyInput) : Built TaxonomyClause := input.expand.build TaxonomyFilter.clause

end TaxonomyInput

def Filter.TermMatch.toFilter (found : Filter.TermMatch) : TaxonomyFilter :=
  { taxonomy := found.taxonomy
    field := some found.field
    operator := some ((found.operator.map Json.str).getD found.terms)
    value := found.operator.map fun _ => found.terms }

end ContentQuery
