import ContentQuery.Proofs.Slots

namespace ContentQuery

def Binding.Fits (name : String) : Binding → Prop
  | .value _ => name = Vocabulary.limit ∨ Vocabulary.isArgument name = true
  | .plain _ => name = Vocabulary.plainClauses
  | .metas _ => name = Vocabulary.metaClauses
  | .taxonomies _ => name = Vocabulary.taxonomyClauses
  | .relations levels =>
    (name = Vocabulary.metaRelation ∨ name = Vocabulary.taxonomyRelation) ∧ levels.entries ≠ []

theorem Binding.fits_joined {name : String} {added : Binding} (fits : added.Fits name)
    (held : Option Binding) : (Binding.joined held added).Fits name := by
  unfold Binding.joined
  split <;> exact fits

namespace Write

def Fits : Write → Prop
  | .bind name value => Binding.Fits name (.value value)
  | .append name binding => Binding.Fits name binding
  | .relate name relations => Binding.Fits name (.relations relations)

theorem fits_result {written : Write} (fits : written.Fits) (held : Option Binding) :
    Binding.Fits written.name (written.result held) := by
  cases written with
  | bind name value => exact fits
  | append name binding => exact Binding.fits_joined fits held
  | relate name relations => exact ⟨fits.1, LevelRelations.entries_recordAll_ne_nil fits.2⟩

end Write

namespace Compound

theorem fits_clauses {compound : Compound} {binding : Binding} {entries : List ClauseEntry}
    (holds : compound.gathered? binding = some entries) :
    Binding.Fits compound.clauseName binding := by
  cases compound <;> cases binding <;> first | exact rfl | cases holds

theorem fits_relationWrites (compound : Compound) (relations : LevelRelations) :
    ∀ written ∈ Call.relationWrites compound.relationName relations, written.Fits := by
  intro written member
  unfold Call.relationWrites at member
  split at member
  · cases member
  · rename_i spoken
    rw [List.mem_singleton.mp member]
    refine ⟨?_, fun bare => spoken (List.isEmpty_iff.mpr bare)⟩
    cases compound with
    | metas => exact .inl rfl
    | taxonomies => exact .inr rfl

end Compound

theorem Step.fits_writes (step : Step) : ∀ written ∈ step.writes, written.Fits := by
  intro one member
  cases step.effect with
  | plain clauses own apart written =>
    rw [written, List.mem_singleton] at member
    subst member
    exact rfl
  | compound kind binding entries holds own apart unplain written =>
    rw [written] at member
    rcases List.mem_cons.mp member with rfl | member
    · exact Compound.fits_clauses holds
    · exact kind.fits_relationWrites _ one member
  | values unplain apart written =>
    obtain ⟨name, value, rfl, known⟩ := written one member
    exact known

namespace Bindings

def Shaped (bindings : Bindings) : Prop :=
  ∀ name binding, bindings.get? name = some binding → binding.Fits name

theorem shaped_write {bindings : Bindings} (shaped : bindings.Shaped) {written : Write}
    (fits : written.Fits) : (bindings.write written).Shaped := by
  intro name binding held
  unfold write at held
  by_cases own : name = written.name
  · subst own
    rw [OrderedMap.get?_alter_self, Option.some.injEq] at held
    subst held
    exact Write.fits_result fits _
  · rw [OrderedMap.get?_alter_of_ne _ own] at held
    exact shaped name binding held

theorem shaped_writeAll {bindings : Bindings} (shaped : bindings.Shaped) {writes : List Write}
    (fits : ∀ written ∈ writes, written.Fits) : (bindings.writeAll writes).Shaped := by
  induction writes generalizing bindings with
  | nil => exact shaped
  | cons written rest ih =>
    apply ih (shaped_write shaped (fits written List.mem_cons_self))
    intro other member
    exact fits other (List.mem_cons_of_mem _ member)

end Bindings

theorem Step.shaped_gather (steps : List Step) : (Step.gather steps).Shaped := by
  have bare : Bindings.Shaped .empty := by
    intro name binding held
    cases held
  refine Bindings.shaped_writeAll bare ?_
  intro written member
  obtain ⟨step, _, member⟩ := List.mem_flatMap.mp member
  exact step.fits_writes written member

namespace Compilation

-- The one argument that a binding of the name writes. Plain clauses are left
-- out: they write what their columns name.
def target? (name : String) : Option String :=
  if name = Vocabulary.limit then some Vocabulary.pageSize
  else if name = Vocabulary.metaClauses ∨ name = Vocabulary.metaRelation then
    some Vocabulary.metaQuery
  else if name = Vocabulary.taxonomyClauses ∨ name = Vocabulary.taxonomyRelation then
    some Vocabulary.taxonomyQuery
  else if Vocabulary.isArgument name ∧ name ≠ Vocabulary.postType then some name
  else none

theorem copied_of_known {name : String} (known : Vocabulary.isArgument name = true) :
    ¬ Vocabulary.isCompiled name = true := by
  intro compiled
  rw [(compiled_apart compiled).2] at known
  cases known

theorem target?_of_known {name : String} (known : Vocabulary.isArgument name = true) :
    target? name = if name ≠ Vocabulary.postType then some name else none := by
  have copied := copied_of_known known
  simp only [isCompiled_iff, not_or] at copied
  simp [target?, copied, known]

theorem target?_eq_known_iff {name argument : String}
    (known : Vocabulary.isArgument argument = true) (free : argument ≠ Vocabulary.postType) :
    target? name = some argument ↔
      name = argument ∨ name = Vocabulary.limit ∧ argument = Vocabulary.pageSize := by
  constructor
  · intro targets
    unfold target? at targets
    split at targets
    · rename_i same
      exact .inr ⟨same, (Option.some.inj targets).symm⟩
    · split at targets
      · rw [← Option.some.inj targets] at known
        exact absurd known (by decide)
      · split at targets
        · rw [← Option.some.inj targets] at known
          exact absurd known (by decide)
        · split at targets
          · exact .inl (Option.some.inj targets)
          · cases targets
  · intro given
    rcases given with rfl | ⟨rfl, rfl⟩
    · rw [target?_of_known known, if_pos free]
    · rfl

theorem target?_of_compiled :
    target? Vocabulary.plainClauses = none ∧
      target? Vocabulary.limit = some Vocabulary.pageSize ∧
      target? Vocabulary.metaClauses = some Vocabulary.metaQuery ∧
      target? Vocabulary.metaRelation = some Vocabulary.metaQuery ∧
      target? Vocabulary.taxonomyClauses = some Vocabulary.taxonomyQuery ∧
      target? Vocabulary.taxonomyRelation = some Vocabulary.taxonomyQuery := by
  decide

theorem plainClauses_apart :
    Vocabulary.limit ≠ Vocabulary.plainClauses ∧ Vocabulary.metaClauses ≠ Vocabulary.plainClauses ∧
      Vocabulary.metaRelation ≠ Vocabulary.plainClauses ∧
      Vocabulary.taxonomyClauses ≠ Vocabulary.plainClauses ∧
      Vocabulary.taxonomyRelation ≠ Vocabulary.plainClauses := by
  decide

-- A binding in its shape writes what its name targets, and plain clauses write
-- their columns. Nothing else makes an argument out of nothing.
theorem update_none_eq_none_iff {argument name : String} {binding : Binding}
    (fits : binding.Fits name) :
    update argument name binding none = none ↔
      target? name ≠ some argument ∧ (name = Vocabulary.plainClauses →
        ∀ clause ∈ binding.plain?.getD [], clause.column ≠ argument) := by
  cases binding with
  | plain clauses =>
    have same : name = Vocabulary.plainClauses := fits
    simp [same, update, target?_of_compiled, Compound.valueAt_eq_none_iff, Binding.plain?]
  | value value =>
    rcases fits with rfl | known
    · simp [update, target?_of_compiled, plainClauses_apart, eq_comm (a := argument)]
    · have apart : name ≠ Vocabulary.limit ∧ name ≠ Vocabulary.plainClauses := by
        have copied := copied_of_known known
        simp only [isCompiled_iff, not_or] at copied
        exact ⟨copied.2.2.2.2.2, copied.1⟩
      rw [target?_of_known known]
      by_cases reserved : name = Vocabulary.postType
      · subst reserved
        simp [update, apart]
      · simp [update, apart, known, reserved, eq_comm (a := argument)]
  | metas nodes =>
    have same : name = Vocabulary.metaClauses := fits
    simp [same, update, target?_of_compiled, plainClauses_apart, eq_comm (a := argument)]
  | taxonomies nodes =>
    have same : name = Vocabulary.taxonomyClauses := fits
    simp [same, update, target?_of_compiled, plainClauses_apart, eq_comm (a := argument)]
  | relations levels =>
    obtain ⟨named, spoken⟩ := fits
    obtain ⟨relation, lowest⟩ := Option.ne_none_iff_exists'.mp fun bare : levels.lowest = none =>
      spoken (LevelRelations.lowest_eq_none_iff.mp bare)
    rcases named with rfl | rfl
    · simp [update, target?_of_compiled, plainClauses_apart, lowest, relation_names_apart,
        eq_comm (a := argument)]
    · simp [update, target?_of_compiled, plainClauses_apart, lowest, relation_names_apart.symm,
        eq_comm (a := argument)]

end Compilation

namespace Step
open Compilation

theorem fits_of_mem {steps : List Step} {name : String} {binding : Binding}
    (member : (name, binding) ∈ (gather steps).entries) : binding.Fits name :=
  shaped_gather steps name binding (OrderedMap.lookup_of_mem (nodup_keys_gather steps) member)

theorem overlay_behind_eq_none_iff (steps : List Step) (argument slot : String) :
    overlay argument ((gather steps).behind slot) = none ↔
      (∀ name, target? name = some argument →
        ¬ Write.Trails (steps.flatMap writes) slot name) ∧
      (Write.Trails (steps.flatMap writes) slot Vocabulary.plainClauses →
        ∀ clause ∈ plainClauses steps, clause.column ≠ argument) := by
  have trails : ∀ name, Write.Trails (steps.flatMap writes) slot name ↔
      ∃ binding, (name, binding) ∈ (gather steps).behind slot := by
    intro name
    rw [← Bindings.mem_behind_iff_trails]
    simp [gather]
  have held : ∀ entry, entry ∈ (gather steps).behind slot → entry ∈ (gather steps).entries :=
    fun entry member => (OrderedMap.behindSlot_sublist slot _).mem member
  rw [overlay_eq_none_iff]
  constructor
  · intro quiet
    constructor
    · intro name targets behind
      obtain ⟨binding, member⟩ := (trails name).mp behind
      have fits := fits_of_mem (held _ member)
      exact ((update_none_eq_none_iff fits).mp (quiet _ member)).1 targets
    · intro behind
      obtain ⟨binding, member⟩ := (trails _).mp behind
      have fits := fits_of_mem (held _ member)
      rw [← Compound.plain_of_mem (held _ member)]
      exact ((update_none_eq_none_iff fits).mp (quiet _ member)).2 rfl
  · intro given entry member
    obtain ⟨untargeted, unnamed⟩ := given
    obtain ⟨name, binding⟩ := entry
    rw [update_none_eq_none_iff (fits_of_mem (held _ member))]
    constructor
    · intro targets
      exact untargeted name targets ((trails name).mpr ⟨binding, member⟩)
    · rintro rfl
      rw [Compound.plain_of_mem (held _ member)]
      exact unnamed ((trails _).mpr ⟨binding, member⟩)

theorem overlay_behind_own_eq_none_iff (steps : List Step) {argument : String}
    (known : Vocabulary.isArgument argument = true) (free : argument ≠ Vocabulary.postType) :
    overlay argument ((gather steps).behind argument) = none ↔
      (argument = Vocabulary.pageSize →
        ¬ Write.Trails (steps.flatMap writes) argument Vocabulary.limit) ∧
      (Write.Trails (steps.flatMap writes) argument Vocabulary.plainClauses →
        ∀ clause ∈ plainClauses steps, clause.column ≠ argument) := by
  rw [overlay_behind_eq_none_iff]
  apply and_congr_left'
  constructor
  · intro untrailed paged
    exact untrailed _ ((target?_eq_known_iff known free).mpr (.inr ⟨rfl, paged⟩))
  · intro unlimited name targets
    rcases (target?_eq_known_iff known free).mp targets with rfl | ⟨rfl, paged⟩
    · exact Write.not_trails_self _ _
    · exact unlimited paged

end Step
end ContentQuery
