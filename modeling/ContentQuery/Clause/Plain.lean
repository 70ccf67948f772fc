import ContentQuery.Clause.Operator
import ContentQuery.Filter.Expression
import ContentQuery.QueryError

namespace ContentQuery

structure PlainFilter where
  column : String
  operator : Option Json
  value : Option Json
  deriving Repr, DecidableEq

structure PlainClause where
  column : String
  operator : String
  value : Json
  deriving Repr, DecidableEq

namespace PlainFilter

-- A filter that stands alone is refused when its operator is unknown and a
-- value was given beside it.
def strict (filter : PlainFilter) : Except QueryError PlainClause :=
  let (operator, value) := Clause.positional "=" filter.operator filter.value
  match operator.string?.bind Vocabulary.operator? with
  | some token => .ok ⟨filter.column, token, value⟩
  | none =>
    if value.isNull then .ok ⟨filter.column, "=", operator⟩
    else .error (.illegalOperator filter.column operator)

def lenient (filter : PlainFilter) : PlainClause :=
  let (operator, value) := Clause.positional "=" filter.operator filter.value
  let (token, value) := Clause.corrected Vocabulary.operator? "=" operator value
  ⟨filter.column, token, value⟩

end PlainFilter

def Filter.Comparison.toFilter (comparison : Filter.Comparison) : PlainFilter :=
  ⟨comparison.target, some (.str comparison.operator), some comparison.value⟩

end ContentQuery
