import ContentQuery.Argument
import ContentQuery.Decimal.Digits
import ContentQuery.Post
import ContentQuery.QueryError
import ContentQuery.Text.Blank

namespace ContentQuery

structure Store where
  posts : List Post
  deriving DecidableEq

structure QueryResult where
  arguments : Arguments
  posts : List Post
  found : Nat

namespace Store

def insert (store : Store) (post : Post) : Store := ⟨store.posts ++ [post]⟩

def accepts (wanted actual : String) : Bool := wanted == Vocabulary.any || wanted == actual

-- A text, or an array with at least one text that accepts. Without a filter
-- everything passes, and other values let nothing through.
def passes (filter : Option Json) (actual : String) : Bool :=
  match filter with
  | none | some .null => true
  | some (.str wanted) => accepts wanted actual
  | some (.arr items) => items.any fun item =>
      match item with
      | .str wanted => accepts wanted actual
      | _ => false
  | some _ => false

def idOfText (text : List Char) : Option Nat :=
  let digits := match text with
    | '+' :: rest => rest
    | _ => text
  if Decimal.isDigits digits ∧ Decimal.digitsValue digits ≤ 18446744073709551615 then
    some (Decimal.digitsValue digits)
  else none

def idOf? : Json → Option Nat
  | .num value => (Json.num value).unsigned?
  | .str text => idOfText (Text.trimChars text.toList)
  | _ => none

def readId (arguments : Arguments) (name : String) : Except QueryError (Option Nat) :=
  match arguments.value? name with
  | none => .ok none
  | some value =>
    match idOf? value with
    | some id => .ok (some id)
    | none => .error (.invalidId name value)

def readPageSize (arguments : Arguments) : Except QueryError Int :=
  match arguments.value? Vocabulary.pageSize with
  | none => .ok (-1)
  | some value =>
    match value.signed? with
    | some size => .ok size
    | none => .error (.invalidPageSize value)

def isWanted (wanted : Option Nat) (actual : Nat) : Bool :=
  match wanted with
  | none => true
  | some wanted => wanted == actual

-- Compound arguments count as absent.
def isMatch (arguments : Arguments) (id author : Option Nat) (post : Post) : Bool :=
  passes (arguments.value? Vocabulary.postType) post.type &&
    passes (arguments.value? Vocabulary.postStatus) post.status &&
    isWanted id post.id && isWanted author post.author

def matching (store : Store) (arguments : Arguments) : Except QueryError (List Post) := do
  let id ← readId arguments Vocabulary.postId
  let author ← readId arguments Vocabulary.author
  return store.posts.filter (isMatch arguments id author)

-- A negative size means all of the rest.
def page (arguments : Arguments) (posts : List Post) : Except QueryError (List Post) := do
  let offset := (← readId arguments Vocabulary.offset).getD 0
  let size ← readPageSize arguments
  let rest := posts.drop offset
  return if size < 0 then rest else rest.take size.toNat

def get (store : Store) (arguments : Arguments) : Except QueryError (List Post) := do
  page arguments (← store.matching arguments)

def query (store : Store) (arguments : Arguments) : Except QueryError QueryResult := do
  let posts ← store.matching arguments
  return ⟨arguments, ← page arguments posts, posts.length⟩

end Store
end ContentQuery
