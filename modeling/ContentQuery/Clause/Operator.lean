import ContentQuery.Json.Basic

namespace ContentQuery.Clause

-- Operator and value of a filter, by what was given. Without a value the
-- operator's place holds the value. A null counts as not given.
def positional (default : String) (operator value : Option Json) : Json × Json :=
  match value with
  | none | some .null => (.str default, operator.getD .null)
  | some value =>
    match operator with
    | none | some .null => (.str default, value)
    | some operator => (operator, value)

-- An operator the table does not know is taken for the value, and what stood in
-- the value's place is dropped.
def corrected (known : String → Option String) (default : String) (operator value : Json) :
    String × Json :=
  match operator.string?.bind known with
  | some token => (token, value)
  | none => (default, operator)

theorem positional_of_given (default operator : String) {value : Json} (given : value ≠ .null) :
    positional default (some (.str operator)) (some value) = (.str operator, value) := by
  cases value <;> first | rfl | exact absurd rfl given

theorem corrected_known {known : String → Option String} {token name : String} (default : String)
    (value : Json) (found : known name = some token) :
    corrected known default (.str name) value = (token, value) := by
  simp [corrected, Json.string?, found]

end ContentQuery.Clause
