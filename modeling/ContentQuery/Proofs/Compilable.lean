import ContentQuery.Proofs.Defaults
import ContentQuery.Proofs.Insertions
import ContentQuery.Proofs.Shapes

namespace ContentQuery

def Binding.HasShape (name : String) (binding : Binding) : Prop :=
  if name = Vocabulary.plainClauses then ∃ clauses, binding = .plain clauses
  else if name = Vocabulary.metaClauses then ∃ nodes, binding = .metas nodes
  else if name = Vocabulary.taxonomyClauses then ∃ nodes, binding = .taxonomies nodes
  else if name = Vocabulary.metaRelation ∨ name = Vocabulary.taxonomyRelation then
    ∃ levels, binding = .relations levels ∧ levels.entries ≠ []
  else ∃ value, binding = .value value

namespace Compilation

theorem hasShape_of_fits {name : String} {binding : Binding} (fits : binding.Fits name) :
    binding.HasShape name := by
  cases binding with
  | value value =>
    obtain ⟨offPlain, offMetas, offMetaRelation⟩ := Compound.metas.values_apart fits
    obtain ⟨_, offTaxonomies, offTaxonomyRelation⟩ := Compound.taxonomies.values_apart fits
    have unrelated : ¬ (name = Vocabulary.metaRelation ∨ name = Vocabulary.taxonomyRelation) :=
      not_or.mpr ⟨offMetaRelation, offTaxonomyRelation⟩
    refine (if_neg offPlain).mpr ((if_neg offMetas).mpr ((if_neg offTaxonomies).mpr
      ((if_neg unrelated).mpr ⟨value, rfl⟩)))
  | plain clauses =>
    cases fits
    exact ⟨clauses, rfl⟩
  | metas nodes =>
    cases fits
    exact ⟨nodes, rfl⟩
  | taxonomies nodes =>
    cases fits
    exact ⟨nodes, rfl⟩
  | relations levels =>
    obtain ⟨named, spoken⟩ := fits
    rcases named with rfl | rfl <;> exact ⟨levels, rfl, spoken⟩

theorem known_of_fits {name : String} {binding : Binding} (fits : binding.Fits name) :
    Vocabulary.isCompiled name = true ∨ Vocabulary.isArgument name = true := by
  rw [isCompiled_iff]
  cases binding with
  | value value =>
    rcases fits with limits | known
    · simp [limits]
    · exact .inr known
  | plain clauses | metas nodes | taxonomies nodes =>
    have same : name = _ := fits
    simp [same]
  | relations levels => rcases fits.1 with same | same <;> simp [same]

theorem fits_iff {name : String} {binding : Binding} :
    binding.Fits name ↔
      (Vocabulary.isCompiled name = true ∨ Vocabulary.isArgument name = true) ∧
        binding.HasShape name := by
  constructor
  · intro fits
    exact ⟨known_of_fits fits, hasShape_of_fits fits⟩
  · intro given
    obtain ⟨known, shape⟩ := given
    rw [isCompiled_iff] at known
    unfold Binding.HasShape at shape
    split at shape
    · rename_i plain
      obtain ⟨clauses, rfl⟩ := shape
      exact plain
    · split at shape
      · rename_i metas
        obtain ⟨nodes, rfl⟩ := shape
        exact metas
      · split at shape
        · rename_i taxonomies
          obtain ⟨nodes, rfl⟩ := shape
          exact taxonomies
        · split at shape
          · rename_i related
            obtain ⟨levels, rfl, spoken⟩ := shape
            exact ⟨related, spoken⟩
          · obtain ⟨value, rfl⟩ := shape
            rename_i offPlain offMetas offTaxonomies unrelated
            obtain ⟨offMetaRelation, offTaxonomyRelation⟩ := not_or.mp unrelated
            simp only [offPlain, offMetas, offTaxonomies, offMetaRelation, offTaxonomyRelation,
              false_or] at known
            exact known

-- What a binding has compilation do. There is nothing where the binding would be
-- passed over: for an unknown name, for an unexpected shape, for relations of no
-- level, and for anything but a value where one is copied. The post type is
-- settled ahead of the bindings.
def routine? (name : String) : Binding → Option (Arguments → Arguments)
  | .plain clauses =>
    if name = Vocabulary.plainClauses then
      some fun arguments =>
        clauses.foldl (fun arguments clause => arguments.insertValue clause.column clause.value)
          arguments
    else none
  | .value value =>
    if name = Vocabulary.postType then some id
    else if name = Vocabulary.limit then
      some (Arguments.insertValue · Vocabulary.pageSize (Coercion.integer.apply value))
    else if Vocabulary.isArgument name then some (Arguments.insertValue · name value)
    else none
  | .metas nodes =>
    if name = Vocabulary.metaClauses then
      some (addEntries · Vocabulary.metaQuery (nodes.map (entryOf metaEntry)))
    else none
  | .taxonomies nodes =>
    if name = Vocabulary.taxonomyClauses then
      some (addEntries · Vocabulary.taxonomyQuery (nodes.map (entryOf taxonomyEntry)))
    else none
  | .relations levels =>
    if name = Vocabulary.metaRelation then
      levels.lowest.map fun relation => (setRelation · Vocabulary.metaQuery relation)
    else if name = Vocabulary.taxonomyRelation then
      levels.lowest.map fun relation => (setRelation · Vocabulary.taxonomyQuery relation)
    else none

theorem addRelations_eq (arguments : Arguments) (name : String) (levels : LevelRelations) :
    addRelations arguments name levels =
      ((levels.lowest.map fun relation => (setRelation · name relation)).getD id) arguments := by
  unfold addRelations
  cases levels.lowest <;> rfl

theorem addBinding_eq_routine (arguments : Arguments) (name : String) (binding : Binding) :
    addBinding arguments name binding = (routine? name binding).getD id arguments := by
  by_cases compiled : Vocabulary.isCompiled name = true
  · obtain ⟨reserved, unknown⟩ := compiled_apart compiled
    simp only [addBinding, if_neg reserved, if_pos compiled]
    cases binding with
    | plain clauses | metas nodes | taxonomies nodes =>
      simp only [addCompiled, routine?]
      split <;> rfl
    | value value =>
      simp only [addCompiled, routine?, if_neg reserved, unknown]
      split <;> rfl
    | relations levels =>
      simp only [addCompiled, routine?, addRelations_eq]
      split
      · rfl
      · split <;> rfl
  · have apart := compiled
    simp only [isCompiled_iff, not_or] at apart
    simp only [addBinding, if_neg compiled]
    cases binding with
    | value value =>
      simp only [routine?, apart, if_false]
      split
      · rfl
      · split <;> rfl
    | plain clauses | metas nodes | taxonomies nodes | relations levels => simp [routine?, apart]

theorem exists_routine_of_fits {name : String} {binding : Binding} (fits : binding.Fits name) :
    ∃ routine, routine? name binding = some routine := by
  cases binding with
  | plain clauses | metas nodes | taxonomies nodes => exact ⟨_, if_pos fits⟩
  | value value =>
    by_cases reserved : name = Vocabulary.postType
    · exact ⟨_, if_pos reserved⟩
    · by_cases limits : name = Vocabulary.limit
      · exact ⟨_, (if_neg reserved).trans (if_pos limits)⟩
      · have known := fits.resolve_left limits
        simp [routine?, reserved, limits, known]
  | relations levels =>
    obtain ⟨named, spoken⟩ := fits
    obtain ⟨relation, lowest⟩ := Option.ne_none_iff_exists'.mp fun bare : levels.lowest = none =>
      spoken (LevelRelations.lowest_eq_none_iff.mp bare)
    rcases named with rfl | rfl
    · simp [routine?, lowest]
    · simp [routine?, lowest, relation_names_apart.symm]

theorem exists_routines {entries : List (String × Binding)}
    (fits : ∀ entry ∈ entries, entry.2.Fits entry.1) :
    ∃ routines : List (Arguments → Arguments),
      entries.map (fun entry => routine? entry.1 entry.2) = routines.map some ∧
      ∀ arguments, entries.foldl (fun arguments entry => addBinding arguments entry.1 entry.2)
        arguments = routines.foldl (fun arguments routine => routine arguments) arguments := by
  induction entries with
  | nil => exact ⟨[], rfl, fun _ => rfl⟩
  | cons entry rest ih =>
    obtain ⟨fitting, others⟩ := List.forall_mem_cons.mp fits
    obtain ⟨routine, found⟩ := exists_routine_of_fits fitting
    obtain ⟨routines, mapped, folded⟩ := ih others
    refine ⟨routine :: routines, ?_, ?_⟩
    · rw [List.map_cons, List.map_cons, found, mapped]
    · intro arguments
      rw [List.foldl_cons, List.foldl_cons, addBinding_eq_routine, found, folded]
      rfl

end Compilation

theorem Compound.clauses_of_relation (compound : Compound) {step : Step}
    (related : ∃ written ∈ step.writes, written.name = compound.relationName) :
    ∃ written ∈ step.writes, written.name = compound.clauseName := by
  cases compound.effect step with
  | own binding entries holds own written =>
    refine ⟨.append compound.clauseName binding, ?_, rfl⟩
    rw [written]
    exact List.mem_cons_self
  | apart absent unwritten =>
    obtain ⟨written, member, same⟩ := related
    exact absurd same (unwritten written member).2

structure Bindings.Compilable (bindings : Bindings) : Prop where
  distinct : bindings.keys.Nodup
  known : ∀ name ∈ bindings.keys,
    Vocabulary.isCompiled name = true ∨ Vocabulary.isArgument name = true
  shaped : ∀ name binding, bindings.get? name = some binding → binding.HasShape name
  owned : ∀ compound : Compound, compound.relationName ∈ bindings.keys →
    compound.clauseName ∈ bindings.keys

namespace Bindings
open Compilation

theorem mem_keys_iff {bindings : Bindings} {name : String} :
    name ∈ bindings.keys ↔ ∃ binding, bindings.get? name = some binding :=
  OrderedMap.mem_keys_iff.trans Option.ne_none_iff_exists'

theorem Compilable.fits {bindings : Bindings} (compilable : bindings.Compilable) :
    bindings.Shaped := by
  intro name binding held
  rw [fits_iff]
  exact ⟨compilable.known name (mem_keys_iff.mpr ⟨binding, held⟩),
    compilable.shaped name binding held⟩

theorem compilable_empty : Compilable .empty where
  distinct := List.nodup_nil
  known _ member := nomatch member
  shaped _ _ held := nomatch held
  owned _ member := nomatch member

theorem compilable_step {bindings : Bindings} (compilable : bindings.Compilable) (step : Step) :
    (bindings.writeAll step.writes).Compilable := by
  have fits := shaped_writeAll compilable.fits step.fits_writes
  constructor
  · exact nodup_keys_writeAll compilable.distinct _
  · intro name member
    obtain ⟨binding, held⟩ := mem_keys_iff.mp member
    exact known_of_fits (fits name binding held)
  · intro name binding held
    exact hasShape_of_fits (fits name binding held)
  · intro compound related
    rw [mem_keys_writeAll] at related ⊢
    rcases related with old | written
    · exact .inl (compilable.owned compound old)
    · exact .inr (compound.clauses_of_relation written)

theorem writes_of_aim {bindings : Bindings} (shaped : bindings.Shaped) {name argument : String}
    {binding : Binding} (held : bindings.get? name = some binding)
    (aims : target? name = some argument ∨
      ∃ clause ∈ binding.plain?.getD [], clause.column = argument) :
    bindings.Writes argument ∨ argument = Vocabulary.postType := by
  by_cases free : argument = Vocabulary.postType
  · exact .inr free
  · have member : (name, binding) ∈ bindings.entries := by
      obtain ⟨before, split⟩ := OrderedMap.exists_slot held
      rw [split]
      exact List.mem_append_right _ List.mem_cons_self
    refine .inl ⟨(name, binding), member, (update_none_ne_none_iff free).mp ?_⟩
    have fits := shaped name binding held
    intro bare
    obtain ⟨untargeted, unnamed⟩ := (update_none_eq_none_iff fits).mp bare
    rcases aims with targets | ⟨clause, among, named⟩
    · exact untargeted targets
    · cases binding with
      | plain clauses => exact unnamed fits clause among named
      | value _ | metas _ | taxonomies _ | relations _ => cases among

end Bindings

namespace Session
open Compilation

theorem compilable_run {session done : Session} {steps : List Step}
    (compilable : session.query.bindings.Compilable) (ran : session.run steps = .ok done) :
    done.query.bindings.Compilable := by
  induction steps generalizing session with
  | nil =>
    cases ran
    exact compilable
  | cons step rest ih =>
    obtain ⟨next, made, finished⟩ := run_cons.mp ran
    apply ih _ finished
    rw [step_bindings made]
    exact Bindings.compilable_step compilable step

-- Whatever is called and asked, no binding is passed over: each has a routine,
-- compilation is these routines in their order, and what a binding is for is
-- among the arguments.
theorem bindings_compiled (shared : Settings) {steps : List Step} {session : Session}
    (ran : Session.run ⟨shared, .fresh⟩ steps = .ok session) :
    session.query.bindings.Compilable ∧
    (∃ routines : List (Arguments → Arguments),
      session.query.bindings.entries.map (fun entry => routine? entry.1 entry.2) =
        routines.map some ∧
      ∀ lookup, compile lookup session.query.bindings =
        routines.foldl (fun arguments routine => routine arguments)
          ((defaults lookup).insertValue Vocabulary.postType (postType session.query.bindings))) ∧
    ∀ name binding argument, session.query.bindings.get? name = some binding →
      (target? name = some argument ∨
        ∃ clause ∈ binding.plain?.getD [], clause.column = argument) →
      ∀ lookup, (compile lookup session.query.bindings).get? argument ≠ none := by
  have compilable : session.query.bindings.Compilable :=
    compilable_run Bindings.compilable_empty ran
  refine ⟨compilable, ?_, ?_⟩
  · have fits : ∀ entry ∈ session.query.bindings.entries, entry.2.Fits entry.1 := by
      intro entry member
      exact compilable.fits _ _ (OrderedMap.lookup_of_mem compilable.distinct member)
    obtain ⟨routines, mapped, folded⟩ := exists_routines fits
    exact ⟨routines, mapped, fun _ => folded _⟩
  · intro name binding argument held aims lookup
    obtain ⟨found, compiled⟩ := exists_get?_compile_of_written
      (Bindings.writes_of_aim compilable.fits held aims)
    rw [compiled]
    exact Option.some_ne_none found

def assorted : List Step :=
  [.call (.ofType "*"), .call (.plain ⟨"title", some (.str "Hello"), none⟩),
    .call (.metas (.single { filter := { column := "size", operator := some (.str "M") },
                             relation := some "OR" })),
    .ask (.find 3),
    .call (.taxonomies (.single { filter := { taxonomy := "genre",
                                              operator := some (.str "jazz") } })),
    .call (.limit 5), .call (.shortcut "author_in" (Json.int 7))]

theorem assorted_compiled :
    ∃ session, Session.run ⟨.initial, .fresh⟩ assorted = .ok session ∧
      session.query.bindings.keys =
        ["post_type", "wheres", "whereMetas", "whereMetaRelation", "p", "posts_per_page",
          "whereTaxonomies", "limit", "author__in"] ∧
      session.query.bindings.Compilable ∧
      ∀ lookup, (compile lookup session.query.bindings).get? "author__in" ≠ none := by
  obtain ⟨compilable, _, aimed⟩ := @bindings_compiled .initial assorted _ rfl
  refine ⟨_, rfl, rfl, compilable, ?_⟩
  exact aimed "author__in" (.value (.arr [Json.int 7])) _ rfl (.inl (by decide))

end Session
end ContentQuery
