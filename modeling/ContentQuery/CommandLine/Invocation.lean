import ContentQuery.CommandLine.Reader

namespace ContentQuery.CommandLine

structure CompileTask where
  postType : String
  settings : List String
  plain : List String
  comparisons : List String
  orComparisons : List String
  taxonomies : List String
  orTaxonomies : List String
  shortcuts : List String
  limit : Option Int
  offset : Option Int
  orderBy : Option String
  descending : Bool
  layout : Layout
  deriving Repr, DecidableEq

inductive Task where
  | compile (task : CompileTask)
  | grammar
  | settings
  deriving Repr, DecidableEq

inductive Invocation where
  | version
  | run (settingsFile : Option String) (task : Task)
  deriving Repr, DecidableEq

def CompileTask.ofGiven (given : List Given) : CompileTask where
  postType := (value? .postType given).getD "*"
  settings := values .setting given
  plain := values .plain given
  comparisons := values .comparison given
  orComparisons := values .orComparison given
  taxonomies := values .taxonomy given
  orTaxonomies := values .orTaxonomy given
  shortcuts := values .shortcut given
  limit := (value? .limit given).bind signed?
  offset := (value? .offset given).bind signed?
  orderBy := value? .orderBy given
  descending := isGiven .descending given
  layout := ((value? .layout given).bind Layout.ofName?).getD .json

def taskNamed? : String → Option (List Flag × (List Given → Task))
  | "compile" => some (Flag.ofCompile, fun given => .compile (.ofGiven given))
  | "grammar" => some (Flag.everywhere, fun _ => .grammar)
  | "config" => some (Flag.everywhere, fun _ => .settings)
  | _ => none

-- The path behind the task's name wins, then the one in front of it, then the
-- preset one. An empty preset is an error where a place would look at it.
def settingsFile? (preset : Option String) (before after : List Given) : Option (Option String) :=
  let inner := value? .settingsFile after
  let outer := value? .settingsFile before
  if preset = some "" ∧ (inner.isNone ∨ outer.isNone) then none
  else some ((inner.or outer).or preset)

def Invocation.ofWords? (preset : Option String) (words : List String) : Option Invocation := do
  let before ← takeFlags Flag.beforeTask words
  let outer := before.given.filter (·.flag != .version)
  guard (areReadable outer)
  if isGiven .version before.given then return .version
  let name :: rest := before.rest | none
  let (known, task) ← taskNamed? name
  let after ← takeFlags known rest
  guard (after.rest.isEmpty ∧ areReadable after.given)
  return .run (← settingsFile? preset outer after.given) (task after.given)

end ContentQuery.CommandLine
