import ContentQuery.DateTime
import ContentQuery.Json.Basic
import ContentQuery.OrderedMap
import ContentQuery.Text.Alphanumeric
import ContentQuery.Text.LowerCase
import ContentQuery.Vocabulary

namespace ContentQuery

structure Post where
  id : Nat
  author : Nat
  name : String
  type : String
  title : String
  date : DateTime
  dateGmt : DateTime
  content : String
  excerpt : String
  status : String
  commentStatus : String
  pingStatus : String
  password : String
  parent : Nat
  modified : DateTime
  modifiedGmt : DateTime
  commentCount : Nat
  menuOrder : Int
  deriving DecidableEq

namespace Post

def alphanumericRuns (run : List Char) : List Char → List (List Char)
  | [] => if run.isEmpty then [] else [run]
  | c :: rest =>
    if Text.isAlphanumeric c then alphanumericRuns (run ++ [c]) rest
    else if run.isEmpty then alphanumericRuns [] rest
    else run :: alphanumericRuns [] rest

-- Each run is lowered on its own, and one hyphen joins two runs.
def slugChars (title : List Char) : List Char :=
  ['-'].intercalate ((alphanumericRuns [] title).map Text.lowerChars)

def slug (title : String) : String := String.ofList (slugChars title.toList)

def published (id : Nat) (type title : String) (date : DateTime) : Post where
  id := id
  author := 0
  name := slug title
  type := type
  title := title
  date := date
  dateGmt := date
  content := ""
  excerpt := ""
  status := "publish"
  commentStatus := "open"
  pingStatus := "open"
  password := ""
  parent := 0
  modified := date
  modifiedGmt := date
  commentCount := 0
  menuOrder := 0

def natJson (value : Nat) : Json := Json.int value

def dateJson (date : DateTime) : Json := .str (String.ofList date.text)

def fields (post : Post) : List (String × Json) :=
  [("ID", natJson post.id), ("post_author", natJson post.author), ("post_name", .str post.name),
    ("post_type", .str post.type), ("post_title", .str post.title),
    ("post_date", dateJson post.date), ("post_date_gmt", dateJson post.dateGmt),
    ("post_content", .str post.content), ("post_excerpt", .str post.excerpt),
    ("post_status", .str post.status), ("comment_status", .str post.commentStatus),
    ("ping_status", .str post.pingStatus), ("post_password", .str post.password),
    ("post_parent", natJson post.parent), ("post_modified", dateJson post.modified),
    ("post_modified_gmt", dateJson post.modifiedGmt),
    ("comment_count", natJson post.commentCount), ("menu_order", Json.int post.menuOrder)]

def toJson (post : Post) : Json := .obj post.fields

def property? (post : Post) (name : String) : Option Json := post.fields.lookup name

def dateOf? (value : Json) : Option DateTime :=
  value.string?.bind fun text => DateTime.ofText? text.toList

def ofValues? : List Json → Option Post
  | [id, author, name, type, title, date, dateGmt, content, excerpt, status, commentStatus,
      pingStatus, password, parent, modified, modifiedGmt, commentCount, menuOrder] => do
    return {
      id := ← id.unsigned?
      author := ← author.unsigned?
      name := ← name.string?
      type := ← type.string?
      title := ← title.string?
      date := ← dateOf? date
      dateGmt := ← dateOf? dateGmt
      content := ← content.string?
      excerpt := ← excerpt.string?
      status := ← status.string?
      commentStatus := ← commentStatus.string?
      pingStatus := ← pingStatus.string?
      password := ← password.string?
      parent := ← parent.unsigned?
      modified := ← dateOf? modified
      modifiedGmt := ← dateOf? modifiedGmt
      commentCount := ← commentCount.unsigned?
      menuOrder := ← menuOrder.signed? }
  | _ => none

-- An object has to hold every property and may hold other names; a list holds
-- the bare values.
def ofJson? : Json → Option Post
  | .obj fields => (Vocabulary.postProperties.mapM fun name => fields.lookup name).bind ofValues?
  | .arr values => ofValues? values
  | _ => none

end Post
end ContentQuery
