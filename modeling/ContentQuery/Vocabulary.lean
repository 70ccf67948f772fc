namespace ContentQuery

-- Letter case is ignored for the 26 Latin letters only.
def sameLetters (a b : String) : Bool := a.toList.map Char.toLower == b.toList.map Char.toLower

inductive Relation where
  | and
  | or
  deriving Repr, DecidableEq

namespace Relation

def token : Relation → String
  | .and => "AND"
  | .or => "OR"

def ofToken? (token : String) : Option Relation :=
  if token = "AND" then some .and else if token = "OR" then some .or else none

def named? (name : String) : Option Relation :=
  if sameLetters name "AND" then some .and
  else if sameLetters name "OR" then some .or
  else none

-- A name nobody knows means AND.
def ofName (name : String) : Relation := (named? name).getD .and

end Relation

inductive SortOrder where
  | ascending
  | descending
  deriving Repr, DecidableEq

namespace SortOrder

def token : SortOrder → String
  | .ascending => "ASC"
  | .descending => "DESC"

def ofToken? (token : String) : Option SortOrder :=
  if token = "ASC" then some .ascending else if token = "DESC" then some .descending else none

end SortOrder

inductive Format where
  | arguments
  | posts
  | query
  | count
  deriving Repr, DecidableEq

namespace Format

def name : Format → String
  | .arguments => "argument"
  | .posts => "array"
  | .query => "query"
  | .count => "count"

def needsStore : Format → Bool
  | .arguments => false
  | .posts | .query | .count => true

def all : List Format := [.posts, .arguments, .query, .count]

def named? (name : String) : Option Format := all.find? fun format => format.name == name

end Format

namespace Vocabulary

def operators : List String :=
  ["=", "!=", ">", ">=", "<", "<=", "LIKE", "NOT LIKE", "IN", "NOT IN", "BETWEEN", "NOT BETWEEN",
    "NOT EXISTS", "REGEXP", "NOT REGEXP", "RLIKE"]

def taxonomyOperators : List String := ["IN", "NOT IN", "AND", "EXISTS", "NOT EXISTS"]

def comparators : List String :=
  ["NUMERIC", "BINARY", "CHAR", "DATE", "DATETIME", "DECIMAL", "SIGNED", "TIME", "UNSIGNED"]

def taxonomyFields : List String := ["term_id", "name", "slug", "term_taxonomy_id"]

-- Bindings that are compiled; the others are copied.
def plainClauses : String := "wheres"
def metaClauses : String := "whereMetas"
def metaRelation : String := "whereMetaRelation"
def taxonomyClauses : String := "whereTaxonomies"
def taxonomyRelation : String := "whereTaxonomyRelation"
def limit : String := "limit"

def compiledBindings : List String :=
  [plainClauses, metaClauses, metaRelation, taxonomyClauses, taxonomyRelation, limit]

def postType : String := "post_type"
def postStatus : String := "post_status"
def postId : String := "p"
def author : String := "author"
def pageSize : String := "posts_per_page"
def offset : String := "offset"
def order : String := "order"
def orderBy : String := "orderby"
def metaQuery : String := "meta_query"
def taxonomyQuery : String := "tax_query"

def arguments : List String :=
  ["author", "author_name", "author__in", "author__not_in",
    "cat", "category_name", "category__and", "category__in", "category__not_in",
    "tag", "tag_id", "tag__and", "tag__in", "tag__not_in", "tag_slug__and", "tag_slug__in",
    "p", "name", "page_id", "pagename",
    "post_parent", "post_parent__in", "post_parent__not_in", "post__in", "post__not_in",
    "has_password", "post_password", "post_type", "post_status",
    "posts_per_page", "posts_per_archive_page", "nopaging", "paged", "offset", "page",
    "ignore_sticky_posts", "order", "orderby",
    "year", "monthnum", "w", "day", "hour", "minute", "second", "m", "perm",
    "cache_results", "update_post_term_cache", "update_post_meta_cache", "no_found_rows",
    "s", "exact", "sentence", "fields"]

def postProperties : List String :=
  ["ID", "post_author", "post_name", "post_type", "post_title", "post_date", "post_date_gmt",
    "post_content", "post_excerpt", "post_status", "comment_status", "ping_status",
    "post_password", "post_parent", "post_modified", "post_modified_gmt", "comment_count",
    "menu_order"]

def answerSetting : String := "return"

def any : String := "any"
def wildcard : String := "*"

theorem find?_token (tokens : List String) (token : String) :
    tokens.find? (· == token) = if token ∈ tokens then some token else none := by
  induction tokens with
  | nil => rfl
  | cons head rest ih =>
    by_cases here : head = token
    · simp [here]
    · have away : token ≠ head := fun same => here same.symm
      simp [here, away, ih]

def operator? (token : String) : Option String := operators.find? (· == token)

def taxonomyOperator? (token : String) : Option String := taxonomyOperators.find? (· == token)

def comparator? (name : String) : Option String := comparators.find? (sameLetters · name)

def taxonomyField? (name : String) : Option String := taxonomyFields.find? (sameLetters · name)

def isCompiled (name : String) : Bool := compiledBindings.contains name

def isArgument (name : String) : Bool := arguments.contains name

def isPostProperty (name : String) : Bool := postProperties.contains name

end Vocabulary
end ContentQuery
