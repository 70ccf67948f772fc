import ContentQuery.Compilation
import ContentQuery.Output
import ContentQuery.Settings
import ContentQuery.Shortcut

namespace ContentQuery

-- Where a query takes its settings from: its own tier over the shared one, or
-- settings that stand alone.
inductive Provider where
  | layered (own : Settings)
  | alone (settings : Settings)
  deriving Repr, DecidableEq

namespace Provider

def lookup (shared : Settings) (provider : Provider) : Lookup := fun name =>
  match provider with
  | .layered own => Settings.layered shared own name
  | .alone settings => settings.get? name

def add (provider : Provider) (settings : List (String × Json)) : Provider :=
  match provider with
  | .layered own => .layered (own.insertMany settings)
  | .alone held => .alone (held.insertMany settings)

def dump (shared : Settings) (provider : Provider) : Settings :=
  match provider with
  | .layered own => Settings.merged shared own
  | .alone settings => settings

end Provider

structure Query where
  bindings : Bindings
  provider : Provider
  store : Option Store
  formatter : Option Formatter

inductive Call where
  | ofType (type : String)
  | configure (settings : Settings)
  | configureWith (settings : Settings)
  | withStore (store : Store)
  | formatWith (formatter : Formatter)
  | plain (filter : PlainFilter)
  | plains (filters : List PlainFilter)
  | metas (input : MetaInput)
  | taxonomies (input : TaxonomyInput)
  | limit (count : Int)
  | offset (count : Int)
  | order (direction : SortOrder)
  | orderBy (column : String)
  | orderByIn (column : String) (direction : SortOrder)
  | apply (shortcut : Shortcut) (value : Json)
  | shortcut (name : String) (value : Json)

inductive Terminal where
  | get
  | first
  | all
  | count
  | find (id : Nat)
  | pluck (column : String)
  | aggregate (name : String)

inductive Reply where
  | output (output : Output)
  | column (values : List Json)

namespace Call

def setting (name : String) (value : Json) : Call := .configure ⟨[(name, value)]⟩

def orMeta (filter : Placed MetaFilter) : Call :=
  .metas (.single { filter with relation := some Relation.or.token })

def metaScope (calls : List MetaCall) : Call := .metas (.scope calls none)

def orMetaScope (calls : List MetaCall) : Call := .metas (.scope calls (some Relation.or.token))

def orTaxonomy (filter : Placed TaxonomyFilter) : Call :=
  .taxonomies (.single { filter with relation := some Relation.or.token })

def taxonomyScope (calls : List TaxonomyCall) : Call := .taxonomies (.scope none calls none)

def orTaxonomyScope (calls : List TaxonomyCall) : Call :=
  .taxonomies (.scope none calls (some Relation.or.token))

def taxonomyScopeIn (taxonomy : String) (calls : List TaxonomyCall) : Call :=
  .taxonomies (.scope (some taxonomy) calls none)

end Call

namespace Query

def fresh : Query := ⟨.empty, .layered .empty, none, none⟩

def bind (query : Query) (name : String) (value : Json) : Query :=
  { query with bindings := query.bindings.insert name (.value value) }

def append (query : Query) (name : String) (binding : Binding) : Query :=
  { query with bindings := query.bindings.append name binding }

-- A relation bound earlier stays; a level that is new is added.
def addRelations (query : Query) (name : String) (relations : LevelRelations) : Query :=
  if relations.entries.isEmpty then query
  else
    { query with bindings := query.bindings.alter name fun held =>
        .relations (((held.bind Binding.relations?).getD .empty).recordAll relations) }

def ofType (type : String) : Query := fresh.bind Vocabulary.postType (.str type)

def ofAnyType : Query := ofType Vocabulary.any

def orderIn (query : Query) (direction : SortOrder) : Query :=
  query.bind Vocabulary.order (.str direction.token)

def orderBy (query : Query) (column : String) : Query := query.bind Vocabulary.orderBy (.str column)

def apply (query : Query) (shortcut : Shortcut) (value : Json) : Query :=
  query.bind shortcut.target (shortcut.value value)

def call (query : Query) : Call → Except QueryError Query
  | .ofType type => .ok (query.bind Vocabulary.postType (.str type))
  | .configure settings => .ok { query with provider := query.provider.add settings.entries }
  | .configureWith settings => .ok { query with provider := .alone settings }
  | .withStore store => .ok { query with store := some store }
  | .formatWith formatter => .ok { query with formatter := some formatter }
  | .plain filter =>
    filter.strict.map fun clause => query.append Vocabulary.plainClauses (.plain [clause])
  | .plains filters =>
    .ok (query.append Vocabulary.plainClauses (.plain (filters.map PlainFilter.lenient)))
  | .metas input =>
    let built := input.build
    .ok ((query.append Vocabulary.metaClauses (.metas built.nodes)).addRelations
      Vocabulary.metaRelation built.relations)
  | .taxonomies input =>
    let built := input.build
    .ok ((query.append Vocabulary.taxonomyClauses (.taxonomies built.nodes)).addRelations
      Vocabulary.taxonomyRelation built.relations)
  | .limit count => .ok (query.bind Vocabulary.limit (Json.int count))
  | .offset count => .ok (query.bind Vocabulary.offset (Json.int count))
  | .order direction => .ok (query.orderIn direction)
  | .orderBy column => .ok (query.orderBy column)
  | .orderByIn column direction => .ok ((query.orderBy column).orderIn direction)
  | .apply shortcut value => .ok (query.apply shortcut value)
  | .shortcut name value => (Shortcut.named? name).map fun shortcut => query.apply shortcut value

def arguments (query : Query) (shared : Settings) : Arguments :=
  compile (query.provider.lookup shared) query.bindings

def resolveFormatter (query : Query) (shared : Settings) (forced : Option Format) :
    Except QueryError Formatter :=
  match forced, query.formatter with
  | some format, _ => format.formatter query.store
  | none, some formatter => .ok formatter
  | none, none =>
    match query.provider.lookup shared Vocabulary.answerSetting with
    | none => .error .noFormat
    | some (.str name) =>
      match Format.named? name with
      | some format => format.formatter query.store
      | none => .error (.unknownFormat name)
    | some setting => .error (.formatNotNamed setting)

def answer (query : Query) (shared : Settings) (forced : Option Format) :
    Except QueryError Output := do
  let formatter ← query.resolveFormatter shared forced
  formatter (query.arguments shared)

def returnsArguments (query : Query) (shared : Settings) : Bool :=
  query.provider.lookup shared Vocabulary.answerSetting == some (.str Format.arguments.name)

-- Arguments are shown as they are; of a list of posts the head is taken.
def firstOf (query : Query) (shared : Settings) (output : Output) : Output :=
  if query.returnsArguments shared then output
  else match output with
    | .posts posts => .post posts.head?
    | output => output

def withPageSize (query : Query) (size : Int) : Query := query.bind Vocabulary.pageSize (Json.int size)

def first (query : Query) (shared : Settings) : Except QueryError Output × Query :=
  let query := query.withPageSize 1
  ((query.answer shared none).map (query.firstOf shared), query)

def columnOf (column : String) (output : Output) : List Json :=
  (output.posts?.getD []).map fun post => (post.property? column).getD .null

def pluck (query : Query) (shared : Settings) (column : String) : Except QueryError (List Json) :=
  if Vocabulary.isPostProperty column then
    (query.answer shared (some .posts)).map (columnOf column)
  else .error (.unknownColumn column)

def ask (query : Query) (shared : Settings) : Terminal → Except QueryError Reply × Query
  | .get => ((query.answer shared none).map .output, query)
  | .first =>
    let (output, query) := query.first shared
    (output.map .output, query)
  | .all =>
    let query := query.withPageSize (-1)
    ((query.answer shared none).map .output, query)
  | .count => ((query.answer shared (some .count)).map .output, query)
  | .find id =>
    let (output, query) := (query.bind Vocabulary.postId (Json.int id)).first shared
    (output.map .output, query)
  | .pluck column => ((query.pluck shared column).map .column, query)
  | .aggregate name => (.error (.noAggregate name), query)

end Query

structure Session where
  shared : Settings
  query : Query

inductive Step where
  | call (call : Call)
  | ask (terminal : Terminal)
  | share (settings : Settings)
  | reset

namespace Session

def step (session : Session) : Step → Except QueryError Session
  | .call call => (session.query.call call).map fun query => { session with query := query }
  | .ask terminal => .ok { session with query := (session.query.ask session.shared terminal).2 }
  | .share settings => .ok { session with shared := session.shared.insertMany settings.entries }
  | .reset => .ok { session with shared := .initial }

-- A failing call ends the run; a terminal that fails does not.
def run (session : Session) (steps : List Step) : Except QueryError Session :=
  steps.foldlM step session

def arguments (session : Session) : Arguments := session.query.arguments session.shared

end Session
end ContentQuery
