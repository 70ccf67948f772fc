import ContentQuery.Store

namespace ContentQuery

inductive Output where
  | arguments (arguments : Arguments)
  | posts (posts : List Post)
  | post (post : Option Post)
  | count (count : Nat)
  | query (result : QueryResult)

namespace Output

def arguments? : Output → Option Arguments
  | .arguments held => some held
  | _ => none

def posts? : Output → Option (List Post)
  | .posts held => some held
  | _ => none

def post? : Output → Option Post
  | .post held => held
  | _ => none

def count? : Output → Option Nat
  | .count held => some held
  | _ => none

def query? : Output → Option QueryResult
  | .query held => some held
  | _ => none

def postsJson (posts : List Post) : Json := .arr (posts.map Post.toJson)

def toJson : Output → Json
  | .arguments held => held.toJson
  | .posts held => postsJson held
  | .post none => .null
  | .post (some held) => held.toJson
  | .count held => Json.int held
  | .query held =>
    .obj [("arguments", held.arguments.toJson), ("posts", postsJson held.posts),
      ("found_posts", Json.int held.found)]

end Output

abbrev Formatter := Arguments → Except QueryError Output

namespace Format

def ask (store : Store) (format : Format) (asked : Arguments) : Except QueryError Output :=
  match format with
  | .arguments => .ok (.arguments asked)
  | .posts => (store.get asked).map .posts
  | .query => (store.query asked).map .query
  | .count => (store.query asked).map fun result => .count result.found

def formatter (format : Format) (store : Option Store) : Except QueryError Formatter :=
  match store, format with
  | some store, format => .ok (format.ask store)
  | none, .arguments => .ok fun asked => .ok (.arguments asked)
  | none, format => .error (.noStore format)

end Format
end ContentQuery
