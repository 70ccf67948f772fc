import ContentQuery.Decimal.Digits
import ContentQuery.Json.Basic

namespace ContentQuery.CommandLine

inductive Flag where
  | settingsFile
  | verbose
  | version
  | postType
  | plain
  | comparison
  | orComparison
  | taxonomy
  | orTaxonomy
  | shortcut
  | limit
  | offset
  | orderBy
  | descending
  | setting
  | layout
  deriving Repr, DecidableEq

inductive Layout where
  | json
  | table
  deriving Repr, DecidableEq

def Layout.ofName? (name : String) : Option Layout :=
  if name = "json" then some .json else if name = "table" then some .table else none

namespace Flag

def name : Flag → String
  | settingsFile => "config"
  | verbose => "verbose"
  | version => "version"
  | postType => "type"
  | plain => "where"
  | comparison => "meta"
  | orComparison => "or-meta"
  | taxonomy => "tax"
  | orTaxonomy => "or-tax"
  | shortcut => "shortcut"
  | limit => "limit"
  | offset => "offset"
  | orderBy => "order-by"
  | descending => "desc"
  | setting => "set"
  | layout => "format"

def letter? : Flag → Option Char
  | verbose => some 'v'
  | version => some 'V'
  | postType => some 't'
  | plain => some 'w'
  | comparison => some 'm'
  | shortcut => some 's'
  | limit => some 'l'
  | layout => some 'f'
  | _ => none

def takesValue : Flag → Bool
  | verbose | version | descending => false
  | _ => true

def repeats : Flag → Bool
  | plain | comparison | orComparison | taxonomy | orTaxonomy | shortcut | setting => true
  | _ => false

def everywhere : List Flag := [settingsFile, verbose]

def beforeTask : List Flag := version :: everywhere

def ofCompile : List Flag :=
  everywhere ++ [postType, plain, comparison, orComparison, taxonomy, orTaxonomy, shortcut, limit,
    offset, orderBy, descending, setting, layout]

end Flag

def signed? (text : String) : Option Int :=
  (Decimal.integer? text.toList).bind fun value => (Json.int value).signed?

structure Given where
  flag : Flag
  value : String
  deriving Repr, DecidableEq

-- Post types and filters may be empty; what they say is settled later.
def Given.isReadable (given : Given) : Bool :=
  match given.flag with
  | .settingsFile => !given.value.isEmpty
  | .limit | .offset => (signed? given.value).isSome
  | .layout => (Layout.ofName? given.value).isSome
  | _ => true

def areReadable (given : List Given) : Bool :=
  given.all fun one =>
    one.isReadable && (one.flag.repeats || (given.filter (·.flag == one.flag)).length == 1)

def values (flag : Flag) (given : List Given) : List String :=
  (given.filter (·.flag == flag)).map Given.value

def value? (flag : Flag) (given : List Given) : Option String := (values flag given).head?

def isGiven (flag : Flag) (given : List Given) : Bool := given.any (·.flag == flag)

end ContentQuery.CommandLine
