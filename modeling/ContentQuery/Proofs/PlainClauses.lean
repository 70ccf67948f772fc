import ContentQuery.Proofs.PlainFree

namespace ContentQuery.Compound
open Compilation

-- No plain clause is named after the argument, or the first call of the kind
-- comes behind a plain call.
def Undisturbed (compound : Compound) (steps : List Step) : Prop :=
  (∀ clause ∈ Step.plainClauses steps, clause.column ≠ compound.argument) ∨
    compound.calls steps ≠ [] ∧ compound.calls (Step.early steps) = []

instance (compound : Compound) (steps : List Step) : Decidable (compound.Undisturbed steps) :=
  inferInstanceAs (Decidable (_ ∨ _))

-- What the calls of the kind write at all, they first wrote ahead of every plain
-- call.
def Ahead (compound : Compound) (steps : List Step) : Prop :=
  (compound.calls (Step.early steps) = [] → compound.calls steps = []) ∧
    (compound.recorded (Step.early steps) = [] → compound.recorded steps = [])

instance (compound : Compound) (steps : List Step) : Decidable (compound.Ahead steps) :=
  inferInstanceAs (Decidable (_ ∧ _))

theorem valueAt_eq_none_iff {argument : String} {clauses : List PlainClause} :
    valueAt argument clauses = none ↔ ∀ clause ∈ clauses, clause.column ≠ argument := by
  induction clauses with
  | nil => simp [valueAt]
  | cons clause rest ih =>
    rw [valueAt, Option.or_eq_none_iff, ih, List.forall_mem_cons]
    by_cases same : argument = clause.column
    · simp [same]
    · simp [same, Ne.symm same]

theorem valueAt_append (argument : String) (first second : List PlainClause) :
    valueAt argument (first ++ second) = (valueAt argument second).or (valueAt argument first) := by
  induction first with
  | nil => simp [valueAt]
  | cons clause rest ih => rw [List.cons_append, valueAt, ih, valueAt, Option.or_assoc]

theorem valueAt_of_last {argument : String} {first second : List PlainClause} {clause : PlainClause}
    (named : clause.column = argument) (unnamed : ∀ later ∈ second, later.column ≠ argument) :
    valueAt argument (first ++ clause :: second) = some clause.value := by
  rw [valueAt_append, valueAt, valueAt_eq_none_iff.mpr unnamed, Option.none_or, if_pos named.symm,
    Option.some_or]

theorem records_of_bare {compound : Compound} {step : Step}
    (bare : compound.entries? step = some []) : compound.records step = [] := by
  cases compound <;> rcases step with made | _ | _ | _ <;> try cases bare
  · cases made with
    | metas input =>
      have empty : MetaInput.entries input = [] := Option.some.inj bare
      exact Input.records_of_bare (List.map_eq_nil_iff.mp empty)
    | _ => cases bare
  · cases made with
    | taxonomies input =>
      have empty : TaxonomyInput.entries input = [] := Option.some.inj bare
      exact Input.records_of_bare (List.map_eq_nil_iff.mp empty)
    | _ => cases bare

theorem recorded_of_bare {compound : Compound} {steps : List Step}
    (bare : (compound.calls steps).flatten = []) : compound.recorded steps = [] := by
  rw [recorded, List.flatMap_eq_nil_iff]
  intro step made
  cases own : compound.entries? step with
  | none => exact records_of_entries?_none own
  | some entries =>
    have call : entries ∈ compound.calls steps := List.mem_filterMap.mpr ⟨step, made, own⟩
    have empty : entries = [] := List.flatten_eq_nil_iff.mp bare entries call
    subst empty
    exact records_of_bare own

section Named
variable {compound : Compound} {steps : List Step} {value : Json}

theorem outcome_of_written (named : valueAt compound.argument (Step.plainClauses steps) = some value)
    (ahead : compound.Ahead steps) : compound.outcome steps = some (.value value) := by
  obtain ⟨made, spoken⟩ := ahead
  have entries : (if compound.calls (Step.early steps) = [] then
      extended none (compound.calls steps) else none) = none := by
    split
    · rename_i early
      rw [made early]
      rfl
    · rfl
  have relation : (if compound.recorded (Step.early steps) = [] then
      compound.relation? steps else none) = none := by
    split
    · rename_i early
      rw [relation?, spoken early]
      rfl
    · rfl
  unfold outcome
  rw [named]
  simp only [entries, relation]
  rfl

theorem outcome_of_uncalled
    (named : valueAt compound.argument (Step.plainClauses steps) = some value)
    (uncalled : compound.calls steps = []) : compound.outcome steps = some (.value value) :=
  outcome_of_written named ⟨fun _ => uncalled, fun _ => recorded_of_uncalled uncalled⟩

theorem outcome_of_behind
    (named : valueAt compound.argument (Step.plainClauses steps) = some value)
    (called : compound.calls steps ≠ []) (behind : compound.calls (Step.early steps) = []) :
    compound.outcome steps = compound.gathered steps := by
  unfold outcome
  rw [named]
  simp only [behind, recorded_of_uncalled behind, if_true]
  rw [gathered]
  cases found : compound.calls steps with
  | nil => exact absurd found called
  | cons call rest => rfl

theorem outcome_of_ahead
    (named : valueAt compound.argument (Step.plainClauses steps) = some value)
    (ahead : compound.calls (Step.early steps) ≠ []) :
    compound.outcome steps = some (.value value) ∨
      ∃ relation, compound.relation? steps = some relation ∧
        compound.outcome steps = some (.clauses ⟨[], some relation⟩) := by
  unfold outcome
  rw [named]
  simp only [ahead, if_false]
  split
  · cases found : compound.relation? steps with
    | none => exact .inl rfl
    | some relation => exact .inr ⟨relation, rfl, rfl⟩
  · exact .inl rfl

end Named

theorem outcome_eq_gathered_iff (compound : Compound) (steps : List Step) :
    compound.outcome steps = compound.gathered steps ↔ compound.Undisturbed steps := by
  unfold Undisturbed
  rw [← valueAt_eq_none_iff]
  cases named : valueAt compound.argument (Step.plainClauses steps) with
  | none => simp [outcome, named]
  | some value =>
    constructor
    · intro kept
      have called : compound.calls steps ≠ [] := by
        intro uncalled
        rw [outcome_of_uncalled named uncalled, gathered_of_uncalled uncalled] at kept
        cases kept
      refine .inr ⟨called, ?_⟩
      apply Classical.not_not.mp
      intro ahead
      rw [gathered_of_called called] at kept
      rcases outcome_of_ahead named ahead with lost | ⟨relation, spoken, lost⟩
      · rw [lost] at kept
        cases kept
      · rw [lost, spoken] at kept
        have bare : (compound.calls steps).flatten = [] := by
          injection kept with kept
          injection kept with kept
          injection kept with kept
          exact kept.symm
        rw [relation?, recorded_of_bare bare] at spoken
        cases spoken
    · intro given
      rcases given with unnamed | ⟨called, behind⟩
      · cases unnamed
      · exact outcome_of_behind named called behind

section Inserted
variable {before after : List Step} {call : Call} {clauses : List PlainClause}

theorem entries?_of_plain {step : Step} (plain : step.clauses? = some clauses)
    (compound : Compound) : compound.entries? step = none := by
  cases step.effect with
  | plain clauses own absent => exact absent compound
  | compound kind binding entries holds own absent unplain =>
    rw [unplain] at plain
    cases plain
  | values unplain absent => exact absent compound

theorem gathered_inserted (compound : Compound) {step : Step} (plain : step.clauses? = some clauses) :
    compound.gathered (before ++ step :: after) = compound.gathered (before ++ after) := by
  have absent := entries?_of_plain plain compound
  rw [gathered, gathered, relation?, relation?, calls, calls, recorded, recorded]
  simp [absent, records_of_entries?_none absent]

theorem plainClauses_inserted (first second : List Step) {step : Step}
    (plain : step.clauses? = some clauses) :
    Step.plainClauses (first ++ step :: second) =
      Step.plainClauses first ++ clauses ++ Step.plainClauses second := by
  simp [Step.plainClauses, plain]

theorem early_append {rest : List Step} (earlier : ∃ step ∈ before, step.clauses? ≠ none) :
    Step.early (before ++ rest) = Step.early before := by
  induction before with
  | nil =>
    obtain ⟨_, member, _⟩ := earlier
    cases member
  | cons step more ih =>
    unfold Step.early at ih ⊢
    cases own : step.clauses? with
    | some clauses => simp [own]
    | none =>
      obtain ⟨other, member, plain⟩ := earlier
      rcases List.mem_cons.mp member with rfl | member
      · exact absurd own plain
      · simp [own, ih ⟨other, member, plain⟩]

theorem outcome_inserted (compound : Compound) {step : Step}
    (plain : step.clauses? = some clauses) (earlier : ∃ step ∈ before, step.clauses? ≠ none)
    (unnamed : ∀ clause ∈ clauses, clause.column ≠ compound.argument) :
    compound.outcome (before ++ step :: after) = compound.outcome (before ++ after) := by
  have absent := entries?_of_plain plain compound
  have values : valueAt compound.argument (Step.plainClauses (before ++ step :: after)) =
      valueAt compound.argument (Step.plainClauses (before ++ after)) := by
    have joined : Step.plainClauses (before ++ after) =
        Step.plainClauses before ++ Step.plainClauses after := by
      simp [Step.plainClauses]
    rw [plainClauses_inserted before after plain, joined, valueAt_append, valueAt_append,
      valueAt_append, valueAt_eq_none_iff.mpr unnamed, Option.none_or]
  have called : compound.calls (before ++ step :: after) = compound.calls (before ++ after) := by
    simp [calls, absent]
  have spoken : compound.relation? (before ++ step :: after) = compound.relation? (before ++ after) := by
    simp [relation?, recorded, records_of_entries?_none absent]
  unfold outcome
  rw [values, gathered_inserted compound plain, called, spoken, early_append earlier,
    early_append earlier]

end Inserted

-- A plain call can be put anywhere into a run. Where a compound was what its own
-- calls come to, it stays so if and only if the longer run leaves it undisturbed;
-- behind all that the calls of the kind first wrote, the last clause under its
-- name is what it becomes.
theorem plain_call_inserted {shared : Settings} {before after : List Step} {done : Session}
    {call : Call} {clauses : List PlainClause}
    (ran : Session.run ⟨shared, .fresh⟩ (before ++ after) = .ok done)
    (plain : (Step.call call).clauses? = some clauses) :
    ∃ more, Session.run ⟨shared, .fresh⟩ (before ++ .call call :: after) = .ok more ∧
      ∀ compound : Compound,
        (compound.Undisturbed (before ++ after) →
          (more.arguments.get? compound.argument = done.arguments.get? compound.argument ↔
            compound.Undisturbed (before ++ .call call :: after))) ∧
        ((∃ step ∈ before, step.clauses? ≠ none) →
          (∀ clause ∈ clauses, clause.column ≠ compound.argument) →
            more.arguments.get? compound.argument = done.arguments.get? compound.argument) ∧
        (compound.Ahead (before ++ .call call :: after) →
          ∀ first clause second,
            Step.plainClauses (before ++ .call call :: after) = first ++ clause :: second →
              clause.column = compound.argument →
              (∀ later ∈ second, later.column ≠ compound.argument) →
                more.arguments.get? compound.argument = some (.value clause.value)) := by
  have accepted := Session.run_ok_iff.mp ⟨done, ran⟩
  have allowed : ∀ step ∈ before ++ .call call :: after, step.Accepted := by
    intro step member
    rcases List.mem_append.mp member with early | late
    · exact accepted step (List.mem_append_left _ early)
    · rcases List.mem_cons.mp late with rfl | late
      · exact Step.accepted_of_plain plain
      · exact accepted step (List.mem_append_right _ late)
  obtain ⟨more, ranMore⟩ := (@Session.run_ok_iff ⟨shared, .fresh⟩ _).mpr allowed
  refine ⟨more, ranMore, ?_⟩
  intro compound
  rw [compound.get?_run ranMore, compound.get?_run ran]
  refine ⟨?_, compound.outcome_inserted plain, ?_⟩
  · intro undisturbed
    rw [(compound.outcome_eq_gathered_iff (before ++ after)).mpr undisturbed,
      ← gathered_inserted compound plain]
    exact compound.outcome_eq_gathered_iff _
  · intro ahead first clause second last named unnamed
    apply outcome_of_written _ ahead
    rw [last]
    exact valueAt_of_last named unnamed

def sized : Step :=
  .call (.metas (.single { filter := { column := "size", operator := some (.str "M") } }))

def equals (column value : String) : Call := .plain ⟨column, some (.str value), none⟩

theorem title_call_inserted :
    ∃ done more replaced,
      Session.run ⟨.initial, .fresh⟩ ([sized] ++ [.ask .first]) = .ok done ∧
      Session.run ⟨.initial, .fresh⟩
        ([sized] ++ .call (equals "post_title" "x") :: [.ask .first]) = .ok more ∧
      more.arguments.get? Vocabulary.metaQuery = done.arguments.get? Vocabulary.metaQuery ∧
      Session.run ⟨.initial, .fresh⟩
        ([sized] ++ .call (equals "meta_query" "x") :: [.ask .first]) = .ok replaced ∧
      replaced.arguments.get? Vocabulary.metaQuery = some (.value (.str "x")) := by
  obtain ⟨done, ran⟩ := (@Session.run_ok_iff ⟨.initial, .fresh⟩ ([sized] ++ [.ask .first])).mpr
    (by simp [sized, Step.Accepted, Call.Accepted])
  have plain : ∀ column, (Step.call (equals column "x")).clauses? =
      some [⟨column, "=", .str "x"⟩] := fun _ => rfl
  obtain ⟨more, ranMore, kept⟩ := plain_call_inserted ran (plain "post_title")
  have shorter : metas.Undisturbed ([sized] ++ [.ask .first]) := by decide
  have longer : metas.Undisturbed
      ([sized] ++ .call (equals "post_title" "x") :: [.ask .first]) := by decide
  obtain ⟨replaced, ranReplaced, written⟩ := plain_call_inserted ran (plain "meta_query")
  have ahead : metas.Ahead ([sized] ++ .call (equals "meta_query" "x") :: [.ask .first]) := by decide
  have named : replaced.arguments.get? Vocabulary.metaQuery = some (.value (.str "x")) :=
    (written .metas).2.2 ahead [] ⟨"meta_query", "=", .str "x"⟩ [] rfl rfl (by simp)
  exact ⟨done, more, replaced, ran, ranMore, ((kept .metas).1 shorter).mpr longer, ranReplaced, named⟩

-- A clause under the argument's name replaces the list. One under another name
-- brings it back when it is made first.
theorem metas_replaced_by_value :
    ∃ done more again,
      Session.run ⟨.initial, .fresh⟩ [sized] = .ok done ∧
      Session.run ⟨.initial, .fresh⟩ [sized, .call (equals "meta_query" "x")] = .ok more ∧
      Session.run ⟨.initial, .fresh⟩ [.call (equals "post_title" "y"), sized,
        .call (equals "meta_query" "x")] = .ok again ∧
      done.arguments.get? "meta_query" =
        some (.clauses ⟨[.comparison "size" (.str "M") "=" "CHAR"], none⟩) ∧
      more.arguments.get? "meta_query" = some (.value (.str "x")) ∧
      again.arguments.get? "meta_query" =
        some (.clauses ⟨[.comparison "size" (.str "M") "=" "CHAR"], none⟩) := by
  refine ⟨_, _, _, rfl, rfl, rfl, ?_, ?_, ?_⟩
  · rfl
  · rfl
  · rfl

end ContentQuery.Compound
