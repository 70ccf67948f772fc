import ContentQuery.Clause.Operator
import ContentQuery.Clause.Tree
import ContentQuery.Filter.Expression

namespace ContentQuery

structure MetaFilter where
  column : String
  operator : Option Json := none
  value : Option Json := none
  comparator : Option String := none
  deriving Repr, DecidableEq

structure MetaClause where
  column : String
  operator : String
  value : Json
  comparator : String
  level : Nat
  deriving Repr, DecidableEq

abbrev MetaCall := ScopeCall MetaFilter
abbrev MetaInput := Input MetaFilter
abbrev MetaNode := Node MetaClause

def MetaFilter.clause (level : Nat) (filter : MetaFilter) : MetaClause :=
  let (operator, value) := Clause.positional "=" filter.operator filter.value
  let (token, value) := Clause.corrected Vocabulary.operator? "=" operator value
  ⟨filter.column, token, value, (filter.comparator.bind Vocabulary.comparator?).getD "CHAR", level⟩

def MetaInput.build (input : MetaInput) : Built MetaClause := Input.build MetaFilter.clause input

def Filter.MetaComparison.toFilter (comparison : Filter.MetaComparison) : MetaFilter :=
  { column := comparison.target
    operator := some (.str comparison.operator)
    value := some comparison.value
    comparator := comparison.comparator }

end ContentQuery
