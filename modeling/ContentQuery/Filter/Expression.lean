import ContentQuery.Json.Basic

namespace ContentQuery.Filter

structure Comparison where
  target : String
  operator : String
  value : Json
  deriving Repr, DecidableEq

structure MetaComparison extends Comparison where
  comparator : Option String
  deriving Repr, DecidableEq

structure TermMatch where
  taxonomy : String
  field : String
  operator : Option String
  terms : Json
  deriving Repr, DecidableEq

end ContentQuery.Filter
