import ContentQuery.CommandLine.Invocation
import ContentQuery.CommandLine.Listing
import ContentQuery.Filter.Reader
import ContentQuery.Json.Reader
import ContentQuery.Query

namespace ContentQuery.CommandLine

inductive Failure where
  | query (error : QueryError)
  | settings (path : String) (error : QueryError)
  | notPair (text : String)
  deriving Repr, DecidableEq

-- An unreadable file is its own cause and is told twice.
def Failure.message : Failure → String
  | .query error => error.message
  | .settings path error =>
    let told := s!"Failed to load settings from {path}: {error.message}"
    match error with
    | .settingsUnreadable reason => s!"{told}: {reason.text}"
    | _ => told
  | .notPair text => s!"Expected key=value, got '{text}'"

structure Machine where
  usual : Option (String × Settings.FileText)
  files : String → Settings.FileText

def Machine.settings (machine : Machine) (named : Option String) : Except Failure Settings :=
  let load (path : String) (text : Settings.FileText) : Except Failure Settings :=
    ((Settings.ofFile path text).map fun settings =>
      Settings.initial.insertMany settings.entries).mapError (.settings path)
  match named, machine.usual with
  | some path, _ => load path (machine.files path)
  | none, some (path, .ok text) => load path (.ok text)
  | none, some (path, .error .isDirectory) => load path (.error .isDirectory)
  | none, _ => .ok .initial

def pair? (text : String) : Except Failure (String × Json) :=
  match text.toList.dropWhile (· != '=') with
  | [] => .error (.notPair text)
  | _ :: rest =>
    let value := String.ofList rest
    .ok (String.ofList (Text.trimChars (text.toList.takeWhile (· != '='))),
      (Json.ofText? value).getD (.str value))

namespace CompileTask

abbrev Pending := Except Failure Call

def comparisonCall (place : Placed MetaFilter → Call) (text : String) : Pending :=
  ((Filter.readMetaComparison text).map fun read => place { filter := read.toFilter }).mapError .query

def taxonomyCall (place : Placed TaxonomyFilter → Call) (text : String) : Pending :=
  ((Filter.readTermMatch text).map fun read => place { filter := read.toFilter }).mapError .query

def plainCall (text : String) : Pending :=
  ((Filter.readComparison text).map fun read => .plain read.toFilter).mapError .query

def calls (task : CompileTask) : List Pending :=
  task.settings.map (fun text => (pair? text).map fun entry => .setting entry.1 entry.2) ++
  task.plain.map plainCall ++
  task.comparisons.map (comparisonCall fun filter => .metas (.single filter)) ++
  task.orComparisons.map (comparisonCall .orMeta) ++
  task.taxonomies.map (taxonomyCall fun filter => .taxonomies (.single filter)) ++
  task.orTaxonomies.map (taxonomyCall .orTaxonomy) ++
  task.shortcuts.map (fun text => (pair? text).map fun entry => .shortcut entry.1 entry.2) ++
  (task.limit.map fun count => .ok (.limit count)).toList ++
  (task.offset.map fun count => .ok (.offset count)).toList ++
  (task.orderBy.map fun column =>
    .ok (.orderByIn column (if task.descending then .descending else .ascending))).toList

def addCall (query : Query) (pending : Pending) : Except Failure Query := do
  (query.call (← pending)).mapError .query

def query (task : CompileTask) : Except Failure Query :=
  task.calls.foldlM addCall (Query.ofType task.postType)

end CompileTask

def Task.output (shared : Settings) : Task → Except Failure String
  | .compile task => task.query.map fun query => task.layout.text (query.arguments shared)
  | .grammar => .ok grammarListing
  | .settings => .ok (settingsListing shared)

-- The settings are loaded before anything else, also when the task has no use
-- for them.
def Invocation.output (machine : Machine) : Invocation → Except Failure String
  | .version => .ok (unlines ["postql 0.1.0"])
  | .run named task => do
    let shared ← machine.settings named
    task.output shared

end ContentQuery.CommandLine
