import ContentQuery.Proofs.CompoundArguments
import ContentQuery.Proofs.Contexts

namespace ContentQuery.Compound
open Compilation

theorem plainClauses_of_unplain {steps : List Step} (unplain : ∀ step ∈ steps, step.clauses? = none) :
    Step.plainClauses steps = [] := by
  rw [Step.plainClauses, List.filterMap_eq_nil_iff.mpr unplain]
  rfl

theorem recorded_of_uncalled {compound : Compound} {steps : List Step}
    (uncalled : compound.calls steps = []) : compound.recorded steps = [] := by
  rw [calls, List.filterMap_eq_nil_iff] at uncalled
  rw [recorded, List.flatMap_eq_nil_iff]
  intro step made
  exact records_of_entries?_none (uncalled step made)

theorem gathered_of_uncalled {compound : Compound} {steps : List Step}
    (uncalled : compound.calls steps = []) : compound.gathered steps = none := by
  rw [gathered, relation?, uncalled, recorded_of_uncalled uncalled]
  rfl

theorem gathered_of_called {compound : Compound} {steps : List Step}
    (called : compound.calls steps ≠ []) :
    compound.gathered steps =
      some (.clauses ⟨(compound.calls steps).flatten, compound.relation? steps⟩) := by
  have taken : extended none (compound.calls steps) = some (compound.calls steps).flatten := by
    cases found : compound.calls steps with
    | nil => exact absurd found called
    | cons call rest => rfl
  rw [gathered, taken]
  cases compound.relation? steps <;> rfl

theorem get?_of_unplain (compound : Compound) {shared : Settings} {steps : List Step}
    {done : Session} (ran : Session.run ⟨shared, .fresh⟩ steps = .ok done)
    (unplain : ∀ step ∈ steps, step.clauses? = none) :
    done.arguments.get? compound.argument = compound.gathered steps := by
  rw [compound.get?_run ran, outcome, plainClauses_of_unplain unplain]
  rfl

section Apart

def alone (compound : Compound) (steps : List Step) : List Step :=
  steps.filter fun step => (compound.other.entries? step).isNone

theorem other_entries? {compound : Compound} {step : Step} {entries : List ClauseEntry}
    (own : compound.entries? step = some entries) : compound.other.entries? step = none := by
  cases compound <;> rcases step with made | _ | _ | _ <;> try rfl
  all_goals cases made <;> first | rfl | cases own

theorem calls_alone (compound : Compound) (steps : List Step) :
    compound.calls (compound.alone steps) = compound.calls steps := by
  induction steps with
  | nil => rfl
  | cons step rest ih =>
    unfold calls alone at ih ⊢
    cases own : compound.entries? step with
    | none => cases theirs : compound.other.entries? step <;> simp [theirs, own, ih]
    | some entries => simp [other_entries? own, own, ih]

theorem recorded_alone (compound : Compound) (steps : List Step) :
    compound.recorded (compound.alone steps) = compound.recorded steps := by
  induction steps with
  | nil => rfl
  | cons step rest ih =>
    unfold recorded alone at ih ⊢
    cases own : compound.entries? step with
    | none =>
      cases theirs : compound.other.entries? step <;>
        simp [theirs, records_of_entries?_none own, ih]
    | some entries => simp [other_entries? own, ih]

theorem gathered_alone (compound : Compound) (steps : List Step) :
    compound.gathered (compound.alone steps) = compound.gathered steps := by
  rw [gathered, gathered, relation?, relation?, calls_alone, recorded_alone]

end Apart

-- A filter is the entry of its clause, with every field but the level, and a
-- nested context one group of what its members are; an input, its lists opened
-- from left to right, is these one after another.
def Spelled : Compound → Prop
  | metas =>
    (metaContexts.Shows fun clause =>
      .comparison clause.column clause.value clause.operator clause.comparator) ∧
    ∀ input : MetaInput,
      input.entries = (Input.parts input).map (metaContexts.compiled topLevel)
  | taxonomies =>
    (taxonomyContexts.Shows fun clause =>
      .taxonomy clause.taxonomy clause.field clause.terms clause.includeChildren clause.operator) ∧
    ∀ input : TaxonomyInput,
      input.entries = input.parts.map (taxonomyContexts.compiled topLevel)

theorem spelled (compound : Compound) : compound.Spelled := by
  cases compound with
  | metas =>
    exact ⟨Contexts.shows_of_lawful lawful_metaContexts fun _ => rfl, MetaInput.entries_eq⟩
  | taxonomies =>
    exact ⟨Contexts.shows_of_lawful lawful_taxonomyContexts fun _ => rfl, TaxonomyInput.entries_eq⟩

-- A run without plain calls has the argument once a call of its kind was made,
-- with the clauses of these calls one after another. The calls of the other
-- kind can be left out.
theorem clauses_of_run (shared : Settings) {steps : List Step}
    (accepted : ∀ step ∈ steps, step.Accepted) (unplain : ∀ step ∈ steps, step.clauses? = none)
    (compound : Compound) :
    compound.Spelled ∧ ∃ done, Session.run ⟨shared, .fresh⟩ steps = .ok done ∧
      (done.arguments.contains compound.argument = true ↔ compound.calls steps ≠ []) ∧
      (compound.calls steps ≠ [] → ∃ relation, done.arguments.get? compound.argument =
        some (.clauses ⟨(compound.calls steps).flatten, relation⟩)) ∧
      ∃ apart, Session.run ⟨shared, .fresh⟩ (compound.alone steps) = .ok apart ∧
        apart.arguments.get? compound.argument = done.arguments.get? compound.argument := by
  obtain ⟨done, ran⟩ := (@Session.run_ok_iff ⟨shared, .fresh⟩ steps).mpr accepted
  have held := compound.get?_of_unplain ran unplain
  refine ⟨compound.spelled, done, ran, ?_, ?_, ?_⟩
  · unfold OrderedMap.contains
    rw [held]
    by_cases uncalled : compound.calls steps = []
    · rw [gathered_of_uncalled uncalled]
      simp [uncalled]
    · rw [gathered_of_called uncalled]
      simp [uncalled]
  · intro called
    exact ⟨compound.relation? steps, held.trans (gathered_of_called called)⟩
  · have kept : ∀ step ∈ compound.alone steps, step ∈ steps := fun step member =>
      (List.mem_filter.mp member).1
    obtain ⟨apart, ranApart⟩ := (@Session.run_ok_iff ⟨shared, .fresh⟩ (compound.alone steps)).mpr
      fun step member => accepted step (kept step member)
    refine ⟨apart, ranApart, ?_⟩
    rw [held, compound.get?_of_unplain ranApart fun step member => unplain step (kept step member),
      gathered_alone]

def twoKinds : List Step :=
  [.call (.metas (.several
      [.single { filter := { column := "size", operator := some (.str "M") } },
        .scope [.addOr { filter := { column := "color", operator := some (.str "red") } }] none])),
    .call (.limit 3),
    .call (.taxonomies (.single { filter := { taxonomy := "genre", operator := some (.str "jazz") } })),
    .ask .all,
    .call (.metas (.single { filter := { column := "price", operator := some (.str "5") } }))]

theorem clauses_of_two_kinds :
    ∃ done, Session.run ⟨.initial, .fresh⟩ twoKinds = .ok done ∧
      done.arguments.contains "meta_query" = true ∧
      ∃ relation, done.arguments.get? "meta_query" = some (.clauses
        ⟨[.comparison "size" (.str "M") "=" "CHAR",
          .group [.comparison "color" (.str "red") "=" "CHAR"] (some .or),
          .comparison "price" (.str "5") "=" "CHAR"], relation⟩) := by
  have accepted : ∀ step ∈ twoKinds, step.Accepted := by
    simp [twoKinds, Step.Accepted, Call.Accepted]
  have unplain : ∀ step ∈ twoKinds, step.clauses? = none := by
    simp [twoKinds, Step.clauses?]
  have called : metas.calls twoKinds ≠ [] := by
    simp [twoKinds, calls, entries?]
  obtain ⟨_, done, ran, contained, found, _⟩ := clauses_of_run .initial accepted unplain .metas
  exact ⟨done, ran, contained.mpr called, found called⟩

-- Of all that the run recorded for the compound, the earliest record at the
-- smallest level relates its clauses.
theorem relation_of_run (shared : Settings) {steps : List Step}
    (accepted : ∀ step ∈ steps, step.Accepted) (unplain : ∀ step ∈ steps, step.clauses? = none)
    (compound : Compound) :
    (∀ name, Relation.ofName name = if name ∈ Relation.orSpellings then .or else .and) ∧
    (∀ level name, name ∉ Relation.orSpellings →
      Input.recorded level (some name) = [(level, .and)]) ∧
    ∃ done, Session.run ⟨shared, .fresh⟩ steps = .ok done ∧
      ((done.arguments.clauses? compound.argument).bind ClauseList.relation = none ↔
        compound.recorded steps = []) ∧
      ∀ relation, (done.arguments.clauses? compound.argument).bind ClauseList.relation =
          some relation ↔
        LevelRelations.Leads (compound.recorded steps) relation := by
  obtain ⟨done, ran⟩ := (@Session.run_ok_iff ⟨shared, .fresh⟩ steps).mpr accepted
  have related : (done.arguments.clauses? compound.argument).bind ClauseList.relation =
      compound.relation? steps := by
    rw [Arguments.clauses?, compound.get?_of_unplain ran unplain]
    by_cases uncalled : compound.calls steps = []
    · rw [gathered_of_uncalled uncalled, relation?, recorded_of_uncalled uncalled]
      rfl
    · rw [gathered_of_called uncalled]
      rfl
  refine ⟨Relation.ofName_eq, ?_, done, ran, ?_, ?_⟩
  · intro level name unknown
    rw [Input.recorded, Option.toList_some, List.map_singleton, Relation.ofName_eq, if_neg unknown]
  · rw [related, relation?, LevelRelations.lowest_eq_none_iff, LevelRelations.entries_ofList_eq_nil]
  · intro relation
    rw [related, relation?]
    exact LevelRelations.lowest_ofList

def opposedRelations : List Step :=
  [.call (.orMeta { filter := { column := "size", operator := some (.str "M") }, level := some 3 }),
    .call (.metas (.several [.scope [.relate "or"] (some "and"),
      .single { filter := { column := "color", operator := some (.str "red") }, relation := some "or" }]))]

theorem relation_of_opposed :
    ∃ done, Session.run ⟨.initial, .fresh⟩ opposedRelations = .ok done ∧
      (done.arguments.clauses? "meta_query").bind ClauseList.relation = some .and := by
  have accepted : ∀ step ∈ opposedRelations, step.Accepted := by
    simp [opposedRelations, Step.Accepted, Call.Accepted, Call.orMeta]
  have unplain : ∀ step ∈ opposedRelations, step.clauses? = none := by
    simp [opposedRelations, Step.clauses?, Call.orMeta]
  have leads : LevelRelations.Leads (metas.recorded opposedRelations) .and :=
    ⟨[(3, .or)], 1, [(1, .or)], rfl, by simp, by simp⟩
  obtain ⟨_, _, done, ran, _, related⟩ := relation_of_run .initial accepted unplain .metas
  exact ⟨done, ran, (related .and).mpr leads⟩

end ContentQuery.Compound
