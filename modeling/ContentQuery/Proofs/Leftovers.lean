import ContentQuery.Proofs.ForcedValues
import ContentQuery.Proofs.Insertions

namespace ContentQuery

def Terminal.forced : Terminal → List (String × Json)
  | .first => [(Vocabulary.pageSize, Json.int 1)]
  | .all => [(Vocabulary.pageSize, Json.int (-1))]
  | .find id => [(Vocabulary.postId, Json.int id), (Vocabulary.pageSize, Json.int 1)]
  | .get | .count | .pluck _ | .aggregate _ => []

def Bindings.force (bindings : Bindings) (values : List (String × Json)) : Bindings :=
  bindings.insertMany (values.map (Prod.map id .value))

def Arguments.force (arguments : Arguments) (values : List (String × Json)) : Arguments :=
  arguments.insertMany (values.map (Prod.map id .value))

namespace Query

theorem ask_query (query : Query) (shared : Settings) (terminal : Terminal) :
    (query.ask shared terminal).2 =
      { query with bindings := query.bindings.force terminal.forced } := by
  cases terminal <;> rfl

def reply (query : Query) (shared : Settings) (handed : Arguments) :
    Terminal → Except QueryError Reply
  | .get | .all =>
    (query.resolveFormatter shared none).bind fun formatter => (formatter handed).map .output
  | .first | .find _ =>
    (query.resolveFormatter shared none).bind fun formatter =>
      (formatter handed).map fun output => .output (query.firstOf shared output)
  | .count =>
    (query.resolveFormatter shared (some .count)).bind fun formatter =>
      (formatter handed).map .output
  | .pluck column =>
    if Vocabulary.isPostProperty column then
      (query.resolveFormatter shared (some .posts)).bind fun formatter =>
        (formatter handed).map fun output => .column (columnOf column output)
    else .error (.unknownColumn column)
  | .aggregate name => .error (.noAggregate name)

theorem ask_reply (query : Query) (shared : Settings) (terminal : Terminal) :
    (query.ask shared terminal).1 =
      query.reply shared (query.handed shared terminal) terminal := by
  cases terminal with
  | get => exact query.map_answer shared none Reply.output
  | first | all | find _ => exact query.reply_of_forced shared rfl
  | count => exact query.map_answer shared (some .count) Reply.output
  | pluck column =>
    have plucks : ((query.answer shared (some .posts)).map (columnOf column)).map Reply.column =
        (query.answer shared (some .posts)).map fun output => .column (columnOf column output) := by
      cases query.answer shared (some .posts) <;> rfl
    simp only [ask, pluck, reply]
    split
    · exact plucks.trans (query.map_answer shared (some .posts) _)
    · rfl
  | aggregate name => rfl

end Query

theorem Terminal.forced_names (terminal : Terminal) :
    ∀ name ∈ terminal.forced.map Prod.fst,
      name = Vocabulary.postId ∨ name = Vocabulary.pageSize := by
  cases terminal <;> simp [forced]

theorem Terminal.forced_names_of_asked (asked : List Terminal) :
    ∀ name ∈ (asked.flatMap Terminal.forced).map Prod.fst,
      name = Vocabulary.postId ∨ name = Vocabulary.pageSize := by
  intro name member
  rw [List.map_flatMap, List.mem_flatMap] at member
  obtain ⟨terminal, _, member⟩ := member
  exact terminal.forced_names name member

theorem Bindings.force_append (bindings : Bindings) (first second : List (String × Json)) :
    bindings.force (first ++ second) = (bindings.force first).force second := by
  rw [force, List.map_append, OrderedMap.insertMany_append]
  rfl

theorem Arguments.force_append (arguments : Arguments) (first second : List (String × Json)) :
    arguments.force (first ++ second) = (arguments.force first).force second := by
  rw [force, List.map_append, OrderedMap.insertMany_append]
  rfl

theorem Arguments.get?_force_force {first last : List (String × Json)} {argument : String}
    (settled : argument ∈ last.map Prod.fst ∨ argument ∉ first.map Prod.fst)
    (arguments : Arguments) :
    ((arguments.force first).force last).get? argument = (arguments.force last).get? argument := by
  apply OrderedMap.get?_insertMany_congr
  rw [OrderedMap.names_map]
  apply settled.imp_right
  intro unforced
  apply OrderedMap.get?_insertMany_of_not_mem
  rwa [OrderedMap.names_map]

theorem Arguments.force_ofList (arguments : Arguments) (values : List (String × Json)) :
    arguments.force (OrderedMap.ofList values).entries = arguments.force values := by
  have mapped := OrderedMap.map_insertMany Argument.value .empty values
  refine Eq.trans (congrArg arguments.insertMany (congrArg OrderedMap.entries mapped)) ?_
  exact OrderedMap.insertMany_ofList arguments _

namespace Compilation

theorem addBinding_value {name : String} (known : Vocabulary.isArgument name = true)
    (free : name ≠ Vocabulary.postType) (arguments : Arguments) (value : Json) :
    addBinding arguments name (.value value) = arguments.insertValue name value := by
  simp [addBinding, free, copied_of_known known, known]

theorem addBindings_values {values : List (String × Json)}
    (known : ∀ name ∈ values.map Prod.fst,
      Vocabulary.isArgument name = true ∧ name ≠ Vocabulary.postType)
    (arguments : Arguments) :
    (values.map (Prod.map id Binding.value)).foldl
        (fun arguments entry => addBinding arguments entry.1 entry.2) arguments =
      arguments.force values := by
  induction values generalizing arguments with
  | nil => rfl
  | cons entry rest ih =>
    obtain ⟨⟨named, free⟩, others⟩ := List.forall_mem_cons.mp known
    refine (ih others _).trans ?_
    exact congrArg (Arguments.force · rest) (addBinding_value named free arguments entry.2)

-- Values that are bound under new names come last among the bindings, so they
-- come last in compilation as well.
theorem compile_force {bindings : Bindings} {values : List (String × Json)}
    (known : ∀ name ∈ values.map Prod.fst,
      Vocabulary.isArgument name = true ∧ name ≠ Vocabulary.postType)
    (fresh : ∀ name ∈ values.map Prod.fst, name ∉ bindings.keys) (lookup : Lookup) :
    compile lookup (bindings.force values) = (compile lookup bindings).force values := by
  have names := OrderedMap.names_map Binding.value values
  have behind : (bindings.force values).entries =
      bindings.entries ++ (OrderedMap.ofList values).entries.map (Prod.map id Binding.value) := by
    rw [Bindings.force, OrderedMap.entries_insertMany_of_fresh (names ▸ fresh)]
    exact congrArg (bindings.entries ++ ·.entries)
      (OrderedMap.map_insertMany Binding.value .empty values).symm
  have typed : postType (bindings.force values) = postType bindings := by
    have unwritten :
        Vocabulary.postType ∉ (values.map (Prod.map id Binding.value)).map Prod.fst := by
      rw [names]
      exact fun member => (known _ member).2 rfl
    rw [postType, Bindings.force, OrderedMap.get?_insertMany_of_not_mem unwritten]
    rfl
  have placed : ∀ name ∈ (OrderedMap.ofList values).entries.map Prod.fst,
      Vocabulary.isArgument name = true ∧ name ≠ Vocabulary.postType := by
    intro name member
    exact known name ((OrderedMap.mem_keys_insertMany.mp member).resolve_left List.not_mem_nil)
  rw [compile, behind, typed, List.foldl_append, addBindings_values placed, Arguments.force_ofList]
  rfl

end Compilation

theorem Shortcut.target_unforced (shortcut : Shortcut) :
    shortcut.target ≠ Vocabulary.postId ∧ shortcut.target ≠ Vocabulary.pageSize := by
  cases shortcut <;> decide

theorem Call.writes_unforced (call : Call) :
    ∀ written ∈ call.writes,
      written.name ≠ Vocabulary.postId ∧ written.name ≠ Vocabulary.pageSize := by
  have apart : ∀ name ∈ ownNames, name ≠ Vocabulary.postId ∧ name ≠ Vocabulary.pageSize := by
    decide
  intro written member
  rcases Call.name_of_mem_writes member with ⟨_, typed⟩ | ⟨shortcut, targeted⟩ | listed
  · rw [typed]
    decide
  · exact targeted ▸ shortcut.target_unforced
  · exact apart _ listed

theorem Step.fresh_of_unasked {steps : List Step}
    (unasked : ∀ step ∈ steps, ∀ terminal, step ≠ .ask terminal) {name : String}
    (forced : name = Vocabulary.postId ∨ name = Vocabulary.pageSize) :
    name ∉ (Step.gather steps).keys := by
  intro member
  obtain ⟨step, made, written, member, rfl⟩ := Step.mem_keys_gather.mp member
  cases step with
  | call call =>
    obtain ⟨offPost, offPage⟩ := call.writes_unforced written member
    rcases forced with same | same
    · exact offPost same
    · exact offPage same
  | ask terminal => exact unasked _ made terminal rfl
  | share _ | reset => cases member

namespace Session

theorem fresh_of_unasked {shared : Settings} {steps : List Step} {session : Session}
    (ran : Session.run ⟨shared, .fresh⟩ steps = .ok session)
    (unasked : ∀ step ∈ steps, ∀ terminal, step ≠ .ask terminal) :
    Vocabulary.postId ∉ session.query.bindings.keys ∧
      Vocabulary.pageSize ∉ session.query.bindings.keys := by
  have held : session.query.bindings = Step.gather steps := run_bindings ran
  rw [held]
  exact ⟨Step.fresh_of_unasked unasked (.inl rfl), Step.fresh_of_unasked unasked (.inr rfl)⟩

theorem run_asked (session : Session) (asked : List Terminal) :
    session.run (asked.map .ask) =
      .ok { session with query := { session.query with
        bindings := session.query.bindings.force (asked.flatMap Terminal.forced) } } := by
  induction asked generalizing session with
  | nil => rfl
  | cons terminal rest ih =>
    rw [List.map_cons, run_cons]
    refine ⟨_, rfl, ?_⟩
    rw [ih, Query.ask_query, List.flatMap_cons, Bindings.force_append]

end Session

-- The terminals before do not show in the answer: they forced nothing, or what
-- they forced is forced again, at the place that it would have in any case.
def Terminal.Shielded (asked : List Terminal) (arguments : Arguments) : Terminal → Prop
  | .get | .count | .pluck _ | .aggregate _ => ∀ earlier ∈ asked, earlier.forced = []
  | .first | .all => ∀ id, Terminal.find id ∉ asked
  | .find _ =>
    Vocabulary.postId ∈ arguments.keys ∨ Vocabulary.pageSize ∈ arguments.keys ∨
      ∀ name ∈ ((asked.flatMap Terminal.forced).map Prod.fst).head?, name = Vocabulary.postId

theorem Terminal.forced_of_unsought {asked : List Terminal} (unsought : ∀ id, .find id ∉ asked) :
    ∀ name ∈ (asked.flatMap Terminal.forced).map Prod.fst, name = Vocabulary.pageSize := by
  intro name member
  rw [List.map_flatMap, List.mem_flatMap] at member
  obtain ⟨terminal, made, member⟩ := member
  cases terminal with
  | find id => exact absurd made (unsought id)
  | first | all => exact List.mem_singleton.mp member
  | get | count | pluck _ | aggregate _ => cases member

theorem Terminal.force_of_shielded {asked : List Terminal} {arguments : Arguments}
    {terminal : Terminal} (shielded : terminal.Shielded asked arguments) :
    arguments.force ((asked ++ [terminal]).flatMap forced) = arguments.force terminal.forced := by
  have names := OrderedMap.names_map Argument.value (asked.flatMap forced)
  rw [List.flatMap_append, List.flatMap_singleton, Arguments.force_append]
  cases terminal with
  | get | count | pluck _ | aggregate _ =>
    have quiet : asked.flatMap forced = [] := List.flatMap_eq_nil_iff.mpr shielded
    rw [quiet]
    rfl
  | first | all =>
    have same := Terminal.forced_of_unsought shielded
    rw [← names] at same
    exact OrderedMap.insert_insertMany_of_same same arguments _
  | find id =>
    have apart : Vocabulary.postId ≠ Vocabulary.pageSize := by decide
    have own := Terminal.forced_names_of_asked asked
    rw [← names] at own
    refine OrderedMap.insert_pair_insertMany apart own ?_ _ _
    rcases shielded with taken | taken | ahead
    · exact .inl taken
    · exact .inr (.inl taken)
    · exact .inr (.inr (names.symm ▸ ahead))

namespace Query

def after (query : Query) (asked : List Terminal) : Query :=
  { query with bindings := query.bindings.force (asked.flatMap Terminal.forced) }

theorem reply_of_after (query : Query) (asked : List Terminal) (shared : Settings)
    (handed : Arguments) (terminal : Terminal) :
    (query.after asked).reply shared handed terminal = query.reply shared handed terminal := by
  cases terminal <;> rfl

section Unforced
variable (query : Query) (shared : Settings)
  (fresh : Vocabulary.postId ∉ query.bindings.keys ∧ Vocabulary.pageSize ∉ query.bindings.keys)
include fresh

theorem handed_after (asked : List Terminal) (terminal : Terminal) :
    (query.after asked).handed shared terminal =
      (query.arguments shared).force ((asked ++ [terminal]).flatMap Terminal.forced) := by
  have forced := Terminal.forced_names_of_asked (asked ++ [terminal])
  have split : (asked ++ [terminal]).flatMap Terminal.forced =
      asked.flatMap Terminal.forced ++ terminal.forced := by
    simp
  rw [handed, ask_query, after, arguments, ← Bindings.force_append, ← split]
  apply Compilation.compile_force
  · intro name member
    rcases forced name member with rfl | rfl <;> decide
  · intro name member
    rcases forced name member with rfl | rfl
    · exact fresh.1
    · exact fresh.2

theorem handed_unasked (terminal : Terminal) :
    query.handed shared terminal = (query.arguments shared).force terminal.forced := by
  refine (query.handed_after shared fresh [] terminal).trans ?_
  rw [List.nil_append, List.flatMap_singleton]

theorem reply_after (asked : List Terminal) (terminal : Terminal) :
    ((query.after asked).ask shared terminal).1 =
      query.reply shared
        ((query.arguments shared).force ((asked ++ [terminal]).flatMap Terminal.forced))
        terminal := by
  rw [ask_reply, query.handed_after shared fresh, reply_of_after]

theorem get?_handed_after {asked : List Terminal} {terminal : Terminal} {argument : String}
    (settled : argument ∈ terminal.forced.map Prod.fst ∨
      argument ∉ (asked.flatMap Terminal.forced).map Prod.fst) :
    ((query.after asked).handed shared terminal).get? argument =
      (query.handed shared terminal).get? argument := by
  rw [query.handed_after shared fresh, query.handed_unasked shared fresh, List.flatMap_append,
    List.flatMap_singleton, Arguments.force_append]
  exact Arguments.get?_force_force settled _

end Unforced
end Query

namespace Session

-- Terminals leave what they force, whether they answer or fail, and nothing else.
-- A later one answers by the arguments of the untouched query with what was
-- forced before written over them, and what it forces itself over that. It hands
-- over any argument as on the untouched query that it forces itself or that was
-- not forced before, and so `find` does for all of them.
theorem answers_after_terminals (shared : Settings) {steps : List Step} {session : Session}
    (ran : Session.run ⟨shared, .fresh⟩ steps = .ok session)
    (unasked : ∀ step ∈ steps, ∀ terminal, step ≠ .ask terminal) (asked : List Terminal) :
    ∃ left : Session, session.run (asked.map .ask) = .ok left ∧ left.shared = session.shared ∧
      left.query = { session.query with
        bindings := session.query.bindings.force (asked.flatMap Terminal.forced) } ∧
      ∀ terminal,
        (left.query.ask left.shared terminal).1 =
          session.query.reply session.shared
            (session.arguments.force ((asked ++ [terminal]).flatMap Terminal.forced)) terminal ∧
        (∀ argument, argument ∈ terminal.forced.map Prod.fst ∨
            argument ∉ (asked.flatMap Terminal.forced).map Prod.fst →
          (left.query.handed left.shared terminal).get? argument =
            (session.query.handed session.shared terminal).get? argument) ∧
        (∀ id argument, terminal = .find id →
          (left.query.handed left.shared terminal).get? argument =
            (session.query.handed session.shared terminal).get? argument) ∧
        (terminal.Shielded asked session.arguments →
          (left.query.ask left.shared terminal).1 =
            (session.query.ask session.shared terminal).1) := by
  have fresh := fresh_of_unasked ran unasked
  have answers := session.query.reply_after session.shared fresh asked
  refine ⟨⟨session.shared, session.query.after asked⟩, session.run_asked asked, rfl, rfl, ?_⟩
  intro terminal
  refine ⟨answers terminal, ?_, ?_, ?_⟩
  · intro argument settled
    exact session.query.get?_handed_after session.shared fresh settled
  · rintro id argument rfl
    apply session.query.get?_handed_after session.shared fresh
    by_cases forced : argument ∈ (asked.flatMap Terminal.forced).map Prod.fst
    · left
      rcases Terminal.forced_names_of_asked asked argument forced with rfl | rfl
      · exact List.mem_cons_self
      · exact List.mem_cons_of_mem _ List.mem_cons_self
    · exact .inr forced
  · intro shielded
    refine (answers terminal).trans ?_
    rw [Query.ask_reply, session.query.handed_unasked session.shared fresh]
    exact congrArg (session.query.reply session.shared · terminal)
      (Terminal.force_of_shielded shielded)

def limited : List Step := [.call (.setting "return" (.str "argument")), .call (.limit 5)]

theorem answers_after_all_and_find :
    ∃ session left, Session.run ⟨.initial, .fresh⟩ limited = .ok session ∧
      session.run [.ask .all, .ask (.find 3)] = .ok left ∧
      (left.query.ask left.shared (.find 8)).1 = (session.query.ask session.shared (.find 8)).1 ∧
      (left.query.handed left.shared .first).get? "posts_per_page" =
        (session.query.handed session.shared .first).get? "posts_per_page" := by
  have unasked : ∀ step ∈ limited, ∀ terminal, step ≠ .ask terminal := by
    simp [limited]
  obtain ⟨left, ran, _, _, answers⟩ := @answers_after_terminals .initial limited _ rfl unasked
    [.all, .find 3]
  refine ⟨_, left, rfl, ran, ?_, ?_⟩
  · apply (answers (.find 8)).2.2.2
    exact .inr (.inl (by decide))
  · apply (answers .first).2.1
    exact .inl (by decide)

theorem page_size_left_by_first :
    (∃ session left, Session.run ⟨.initial, .fresh⟩ limited = .ok session ∧
      session.run [.ask .first] = .ok left ∧
      (left.query.ask left.shared .get).1 ≠ (session.query.ask session.shared .get).1) ∧
    ∃ left, Session.run ⟨.initial, .fresh⟩ [.ask .first] = .ok left ∧
      (Query.fresh.ask .initial .first).1 = .error (.noStore .posts) ∧
      left.query.bindings.entries = [("posts_per_page", .value (Json.int 1))] ∧
      Query.fresh.bindings.entries = [] := by
  refine ⟨⟨_, _, rfl, rfl, ?_⟩, _, rfl, rfl, rfl, rfl⟩
  intro same
  cases same

end Session
end ContentQuery
