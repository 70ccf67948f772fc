import ContentQuery.Coercion
import ContentQuery.QueryError

namespace ContentQuery

inductive Shortcut where
  | author
  | authorName
  | authorIn
  | authorNotIn
  | category
  | categoryName
  | categoryAnd
  | categoryIn
  | categoryNotIn
  | status
  deriving Repr, DecidableEq

namespace Shortcut

def all : List Shortcut :=
  [author, authorName, authorIn, authorNotIn, category, categoryName, categoryAnd, categoryIn,
    categoryNotIn, status]

def name : Shortcut → String
  | author => "author"
  | authorName => "authorName"
  | authorIn => "authorIn"
  | authorNotIn => "authorNotIn"
  | category => "cat"
  | categoryName => "categoryName"
  | categoryAnd => "categoryAnd"
  | categoryIn => "categoryIn"
  | categoryNotIn => "categoryNotIn"
  | status => "status"

def target : Shortcut → String
  | author => "author"
  | authorName => "author_name"
  | authorIn => "author__in"
  | authorNotIn => "author__not_in"
  | category => "cat"
  | categoryName => "category_name"
  | categoryAnd => "category__and"
  | categoryIn => "category__in"
  | categoryNotIn => "category__not_in"
  | status => "post_status"

def coercion : Shortcut → Coercion
  | author | authorName | categoryName | status => .text
  | category | categoryAnd => .integer
  | authorIn | authorNotIn | categoryIn | categoryNotIn => .array

-- Underscores and letter case do not count, so a name may also be written with
-- underscores between its words.
def named? (name : String) : Except QueryError Shortcut :=
  let wanted := String.ofList (name.toList.filter (· != '_'))
  match all.find? fun shortcut => sameLetters shortcut.name wanted with
  | some shortcut => .ok shortcut
  | none => .error (.unknownShortcut name)

def value (shortcut : Shortcut) (raw : Json) : Json := shortcut.coercion.apply raw

end Shortcut
end ContentQuery
