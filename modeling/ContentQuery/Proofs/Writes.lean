import ContentQuery.Proofs.Insertions
import ContentQuery.Query

namespace ContentQuery

-- One write to the bindings of a query. Whatever a call or a terminal does to
-- them is a list of these.
inductive Write where
  | bind (name : String) (value : Json)
  | append (name : String) (binding : Binding)
  | relate (name : String) (relations : LevelRelations)

namespace Write

def name : Write → String
  | .bind name _ => name
  | .append name _ => name
  | .relate name _ => name

def result : Write → Option Binding → Binding
  | .bind _ value, _ => .value value
  | .append _ binding, held => Binding.joined held binding
  | .relate _ relations, held =>
    .relations (((held.bind Binding.relations?).getD .empty).recordAll relations)

end Write

namespace Bindings

def write (bindings : Bindings) (written : Write) : Bindings :=
  bindings.alter written.name written.result

def writeAll (bindings : Bindings) (writes : List Write) : Bindings := writes.foldl write bindings

theorem writeAll_append (bindings : Bindings) (first second : List Write) :
    bindings.writeAll (first ++ second) = (bindings.writeAll first).writeAll second :=
  List.foldl_append

theorem get?_writeAll (bindings : Bindings) (writes : List Write) (name : String) :
    (bindings.writeAll writes).get? name =
      (writes.filter fun written => written.name == name).foldl
        (fun held written => some (written.result held)) (bindings.get? name) :=
  OrderedMap.get?_alterAll Write.name Write.result bindings writes name

theorem get?_writeAll_of_unwritten {bindings : Bindings} {writes : List Write} {name : String}
    (unwritten : ∀ written ∈ writes, written.name ≠ name) :
    (bindings.writeAll writes).get? name = bindings.get? name := by
  rw [get?_writeAll, List.filter_eq_nil_iff.mpr]
  · rfl
  · intro written member
    simpa using unwritten written member

theorem keys_write (bindings : Bindings) (written : Write) :
    (bindings.write written).keys =
      if written.name ∈ bindings.keys then bindings.keys else bindings.keys ++ [written.name] :=
  OrderedMap.keys_alter bindings written.name written.result

theorem keys_prefix (bindings : Bindings) (writes : List Write) :
    bindings.keys <+: (bindings.writeAll writes).keys := by
  induction writes generalizing bindings with
  | nil => exact List.prefix_refl _
  | cons written rest ih =>
    refine List.IsPrefix.trans ?_ (ih (bindings.write written))
    rw [keys_write]
    split
    · exact List.prefix_refl _
    · exact List.prefix_append _ _

theorem mem_keys_writeAll {bindings : Bindings} {writes : List Write} {name : String} :
    name ∈ (bindings.writeAll writes).keys ↔
      name ∈ bindings.keys ∨ ∃ written ∈ writes, written.name = name := by
  rw [← List.mem_map]
  exact OrderedMap.mem_keys_alterAll Write.name Write.result

theorem nodup_keys_writeAll {bindings : Bindings} (distinct : bindings.keys.Nodup)
    (writes : List Write) : (bindings.writeAll writes).keys.Nodup :=
  OrderedMap.nodup_keys_alterAll Write.name Write.result distinct writes

end Bindings

namespace Call

def relationWrites (name : String) (relations : LevelRelations) : List Write :=
  if relations.entries.isEmpty then [] else [.relate name relations]

def writes : Call → List Write
  | .ofType type => [.bind Vocabulary.postType (.str type)]
  | .configure _ | .configureWith _ | .withStore _ | .formatWith _ => []
  | .plain filter =>
    match filter.strict with
    | .ok clause => [.append Vocabulary.plainClauses (.plain [clause])]
    | .error _ => []
  | .plains filters =>
    [.append Vocabulary.plainClauses (.plain (filters.map PlainFilter.lenient))]
  | .metas input =>
    .append Vocabulary.metaClauses (.metas input.build.nodes) ::
      relationWrites Vocabulary.metaRelation input.build.relations
  | .taxonomies input =>
    .append Vocabulary.taxonomyClauses (.taxonomies input.build.nodes) ::
      relationWrites Vocabulary.taxonomyRelation input.build.relations
  | .limit count => [.bind Vocabulary.limit (Json.int count)]
  | .offset count => [.bind Vocabulary.offset (Json.int count)]
  | .order direction => [.bind Vocabulary.order (.str direction.token)]
  | .orderBy column => [.bind Vocabulary.orderBy (.str column)]
  | .orderByIn column direction =>
    [.bind Vocabulary.orderBy (.str column), .bind Vocabulary.order (.str direction.token)]
  | .apply known value => [.bind known.target (known.value value)]
  | .shortcut name value =>
    match Shortcut.named? name with
    | .ok known => [.bind known.target (known.value value)]
    | .error _ => []

def Accepted : Call → Prop
  | .plain filter => ∃ clause, filter.strict = .ok clause
  | .shortcut name _ => ∃ known, Shortcut.named? name = .ok known
  | _ => True

def configured : Call → Provider → Provider
  | .configure settings, provider => provider.add settings.entries
  | .configureWith settings, _ => .alone settings
  | _, provider => provider

def store? : Call → Option Store
  | .withStore store => some store
  | _ => none

def formatter? : Call → Option Formatter
  | .formatWith formatter => some formatter
  | _ => none

section Runs
variable {α : Type} {given? : Call → Option α} {calls : List Call}

def lastOr (given? : Call → Option α) (calls : List Call) (held : Option α) : Option α :=
  (calls.filterMap given?).getLast?.or held

theorem lastOr_cons (call : Call) (rest : List Call) (held : Option α) :
    lastOr given? (call :: rest) held = lastOr given? rest ((given? call).or held) := by
  unfold lastOr
  cases given : given? call with
  | none => rw [List.filterMap_cons_none given, Option.none_or]
  | some value =>
    rw [List.filterMap_cons_some given, List.getLast?_cons]
    cases (rest.filterMap given?).getLast? <;> rfl

theorem lastOr_of_silent (silent : ∀ call ∈ calls, given? call = none) (held : Option α) :
    lastOr given? calls held = held := by
  rw [lastOr, List.filterMap_eq_nil_iff.mpr silent]
  rfl

theorem foldl_configured (kept : ∀ call ∈ calls, ∀ provider, call.configured provider = provider)
    (provider : Provider) :
    calls.foldl (fun provider call => call.configured provider) provider = provider :=
  List.foldlRecOn (motive := (· = provider)) calls _ rfl
    fun held same call member => (kept call member held).trans same

end Runs

end Call

def Terminal.writes : Terminal → List Write
  | .first => [.bind Vocabulary.pageSize (Json.int 1)]
  | .all => [.bind Vocabulary.pageSize (Json.int (-1))]
  | .find id => [.bind Vocabulary.postId (Json.int id), .bind Vocabulary.pageSize (Json.int 1)]
  | .get | .count | .pluck _ | .aggregate _ => []

namespace Step

def writes : Step → List Write
  | .call made => made.writes
  | .ask terminal => terminal.writes
  | .share _ | .reset => []

def Accepted : Step → Prop
  | .call made => made.Accepted
  | .ask _ | .share _ | .reset => True

end Step

namespace Query

theorem addRelations_eq (query : Query) (name : String) (relations : LevelRelations) :
    query.addRelations name relations = { query with
      bindings := query.bindings.writeAll (Call.relationWrites name relations) } := by
  unfold addRelations Call.relationWrites
  split
  · rfl
  · rfl

theorem call_eq {query next : Query} {call : Call} (made : query.call call = .ok next) :
    next = ⟨query.bindings.writeAll call.writes, call.configured query.provider,
      call.store?.or query.store, call.formatter?.or query.formatter⟩ := by
  cases call with
  | plain filter =>
    cases checked : filter.strict with
    | error failure => simp [Query.call, checked, Except.map] at made
    | ok clause =>
      simp only [Query.call, checked, Except.map, Except.ok.injEq] at made
      subst made
      simp only [Call.writes, checked]
      rfl
  | shortcut name value =>
    cases known : Shortcut.named? name with
    | error failure => simp [Query.call, known, Except.map] at made
    | ok shortcut =>
      simp only [Query.call, known, Except.map, Except.ok.injEq] at made
      subst made
      simp only [Call.writes, known]
      rfl
  | metas input =>
    cases made
    rw [addRelations_eq]
    rfl
  | taxonomies input =>
    cases made
    rw [addRelations_eq]
    rfl
  | _ => cases made; rfl

theorem call_bindings {query next : Query} {call : Call} (made : query.call call = .ok next) :
    next.bindings = query.bindings.writeAll call.writes := by
  rw [call_eq made]

theorem call_ok_iff {query : Query} {call : Call} :
    (∃ next, query.call call = .ok next) ↔ call.Accepted := by
  cases call with
  | plain filter => cases checked : filter.strict <;> simp [Query.call, Call.Accepted, checked, Except.map]
  | shortcut name value =>
    cases known : Shortcut.named? name <;> simp [Query.call, Call.Accepted, known, Except.map]
  | _ => simp [Query.call, Call.Accepted]

theorem ask_bindings (query : Query) (shared : Settings) (terminal : Terminal) :
    (query.ask shared terminal).2.bindings = query.bindings.writeAll terminal.writes := by
  cases terminal <;> rfl

end Query

namespace Session

theorem query_of_step_call {session next : Session} {call : Call}
    (made : session.step (.call call) = .ok next) :
    ∃ query, session.query.call call = .ok query ∧ next = { session with query := query } := by
  cases called : session.query.call call with
  | error failure => simp [Session.step, called, Except.map] at made
  | ok query =>
    simp only [Session.step, called, Except.map, Except.ok.injEq] at made
    exact ⟨query, rfl, made.symm⟩

theorem step_bindings {session next : Session} {step : Step} (made : session.step step = .ok next) :
    next.query.bindings = session.query.bindings.writeAll step.writes := by
  cases step with
  | call call =>
    obtain ⟨query, called, rfl⟩ := query_of_step_call made
    exact Query.call_bindings called
  | ask terminal => cases made; exact Query.ask_bindings _ _ _
  | share settings => cases made; rfl
  | reset => cases made; rfl

theorem step_ok_iff {session : Session} {step : Step} :
    (∃ next, session.step step = .ok next) ↔ step.Accepted := by
  cases step with
  | call call =>
    rw [Step.Accepted, ← @Query.call_ok_iff session.query call]
    cases done : session.query.call call <;> simp [Session.step, done, Except.map]
  | _ => simp [Session.step, Step.Accepted]

theorem run_cons {session done : Session} {step : Step} {rest : List Step} :
    session.run (step :: rest) = .ok done ↔
      ∃ next, session.step step = .ok next ∧ next.run rest = .ok done := by
  cases made : session.step step with
  | error failure => simp [run, made, bind, Except.bind]
  | ok next => simp [run, made, bind, Except.bind]

-- The bindings of a query after a run are those of its steps' writes alone.
-- Settings, stores and answers do not come into it.
theorem run_bindings {session done : Session} {steps : List Step}
    (ran : session.run steps = .ok done) :
    done.query.bindings = session.query.bindings.writeAll (steps.flatMap Step.writes) := by
  induction steps generalizing session with
  | nil => cases ran; rfl
  | cons step rest ih =>
    obtain ⟨next, made, finished⟩ := run_cons.mp ran
    rw [ih finished, step_bindings made, List.flatMap_cons, Bindings.writeAll_append]

theorem run_calls_eq {session done : Session} {calls : List Call}
    (ran : session.run (calls.map .call) = .ok done) :
    done = ⟨session.shared, ⟨session.query.bindings.writeAll (calls.flatMap Call.writes),
      calls.foldl (fun provider call => call.configured provider) session.query.provider,
      Call.lastOr Call.store? calls session.query.store,
      Call.lastOr Call.formatter? calls session.query.formatter⟩⟩ := by
  induction calls generalizing session with
  | nil =>
    cases ran
    rfl
  | cons call rest ih =>
    obtain ⟨next, made, finished⟩ := run_cons.mp ran
    obtain ⟨query, called, rfl⟩ := query_of_step_call made
    rw [ih finished, Query.call_eq called, Call.lastOr_cons, Call.lastOr_cons, List.flatMap_cons,
      Bindings.writeAll_append, List.foldl_cons]

theorem run_ok_iff {session : Session} {steps : List Step} :
    (∃ done, session.run steps = .ok done) ↔ ∀ step ∈ steps, step.Accepted := by
  induction steps generalizing session with
  | nil => simp [run, pure, Except.pure]
  | cons step rest ih =>
    constructor
    · intro given other member
      obtain ⟨done, ran⟩ := given
      obtain ⟨next, made, finished⟩ := run_cons.mp ran
      rcases List.mem_cons.mp member with rfl | later
      · exact step_ok_iff.mp ⟨next, made⟩
      · exact ih.mp ⟨done, finished⟩ other later
    · intro accepted
      obtain ⟨next, made⟩ := step_ok_iff.mpr (accepted step List.mem_cons_self)
      obtain ⟨done, finished⟩ := (@ih next).mpr
        fun other later => accepted other (List.mem_cons_of_mem _ later)
      exact ⟨done, run_cons.mpr ⟨next, made, finished⟩⟩

end Session
end ContentQuery
