import ContentQuery.Json.Basic
import ContentQuery.OrderedMap
import ContentQuery.QueryError
import ContentQuery.Toml.Document

namespace ContentQuery

abbrev Settings := OrderedMap Json

namespace Settings

def initial : Settings :=
  .ofList [("posts_per_page", Json.int (-1)), ("post_type", .str "any"),
    ("post_status", .str "publish"), ("return", .str "array")]

-- A local value hides the shared one, also when it is null.
def layered (shared own : Settings) (name : String) : Option Json :=
  (own.get? name).or (shared.get? name)

def merged (shared own : Settings) : Settings := shared.insertMany own.entries

abbrev FileText := Except Unreadable String

def ofFile (path : String) (text : FileText) : Except QueryError Settings :=
  match text with
  | .error reason => .error (.settingsUnreadable reason)
  | .ok text =>
    match Toml.ofText? text with
    | some settings => .ok settings
    | none => .error (.settingsSyntax path)

end Settings

structure Tiers where
  shared : Settings
  locals : List Settings
  deriving Repr, DecidableEq

inductive TierCall where
  | set (name : String) (value : Json)
  | setMany (settings : Settings)
  | reset
  | load (path : String) (text : Settings.FileText)
  | new
  | clone (index : Nat)
  | add (index : Nat) (name : String) (value : Json)
  | addMany (index : Nat) (settings : Settings)

namespace Tiers

def start : Tiers := ⟨.initial, [.empty]⟩

def own (tiers : Tiers) (index : Nat) : Settings := tiers.locals[index]?.getD .empty

def get? (tiers : Tiers) (index : Nat) (name : String) : Option Json :=
  Settings.layered tiers.shared (tiers.own index) name

def has (tiers : Tiers) (index : Nat) (name : String) : Bool :=
  (tiers.own index).contains name || tiers.shared.contains name

def dump (tiers : Tiers) (index : Nat) : Settings :=
  Settings.merged tiers.shared (tiers.own index)

-- Only a failing load fails, and then nothing has changed.
def step (tiers : Tiers) : TierCall → Except QueryError Tiers
  | .set name value => .ok { tiers with shared := tiers.shared.insert name value }
  | .setMany settings => .ok { tiers with shared := tiers.shared.insertMany settings.entries }
  | .reset => .ok { tiers with shared := .initial }
  | .load path text =>
    (Settings.ofFile path text).map fun settings =>
      { tiers with shared := tiers.shared.insertMany settings.entries }
  | .new => .ok { tiers with locals := tiers.locals ++ [.empty] }
  | .clone index => .ok { tiers with locals := tiers.locals ++ [tiers.own index] }
  | .add index name value =>
    .ok { tiers with locals := tiers.locals.modify index fun own => own.insert name value }
  | .addMany index settings =>
    .ok { tiers with locals := tiers.locals.modify index fun own => own.insertMany settings.entries }

def run (tiers : Tiers) (calls : List TierCall) : Tiers :=
  calls.foldl (fun tiers call => match tiers.step call with
    | .ok next => next
    | .error _ => tiers) tiers

end Tiers
end ContentQuery
