import ContentQuery.Proofs.PlainClauses

namespace ContentQuery

def everyType : List Json := [.null, .str "", .str Vocabulary.wildcard, .arr []]

namespace Compilation

theorem wantsEveryType_iff {value : Json} : wantsEveryType value = true ↔ value ∈ everyType := by
  cases value <;> simp [wantsEveryType, everyType]

theorem postType_known :
    Vocabulary.postType ≠ Vocabulary.pageSize ∧ Vocabulary.postType ≠ Vocabulary.metaQuery ∧
      Vocabulary.postType ≠ Vocabulary.taxonomyQuery := by
  decide

-- A binding of the post type itself was looked at before all others, so of the
-- bindings the plain clauses alone write it.
theorem update_postType (name : String) (binding : Binding) (held : Option Argument) :
    update Vocabulary.postType name binding held =
      if name = Vocabulary.plainClauses then
        ((valueAt Vocabulary.postType (binding.plain?.getD [])).map .value).or held
      else held := by
  obtain ⟨offPage, offMetas, offTaxonomies⟩ := postType_known
  cases binding with
  | plain clauses => rfl
  | value value =>
    have copied : ¬ (Vocabulary.isArgument name ∧ name ≠ Vocabulary.postType ∧
        Vocabulary.postType = name) := fun given => given.2.1 given.2.2.symm
    simp [update, offPage, copied, Binding.plain?, valueAt]
  | metas nodes | taxonomies nodes | relations levels =>
    simp [update, offMetas, offTaxonomies, Binding.plain?, valueAt]

theorem foldl_update_postType {entries : List (String × Binding)}
    (distinct : (entries.map Prod.fst).Nodup) (held : Option Argument) :
    entries.foldl (fun held entry => update Vocabulary.postType entry.1 entry.2 held) held =
      ((valueAt Vocabulary.postType
        (((entries.lookup Vocabulary.plainClauses).bind Binding.plain?).getD [])).map .value).or
          held := by
  induction entries generalizing held with
  | nil => rfl
  | cons entry rest ih =>
    obtain ⟨name, binding⟩ := entry
    obtain ⟨fresh, distinctRest⟩ := List.nodup_cons.mp distinct
    rw [List.foldl_cons, ih distinctRest, update_postType]
    by_cases here : name = Vocabulary.plainClauses
    · subst here
      rw [OrderedMap.lookup_eq_none_iff_not_mem.mpr fresh, List.lookup_cons_self, if_pos rfl]
      rfl
    · rw [OrderedMap.lookup_cons_of_ne (Ne.symm here), if_neg here]

theorem get?_compile_postType {bindings : Bindings} (distinct : bindings.keys.Nodup)
    (lookup : Lookup) :
    (compile lookup bindings).get? Vocabulary.postType =
      some (.value
        ((valueAt Vocabulary.postType bindings.plainClauses).getD (postType bindings))) := by
  rw [get?_compile, foldl_update_postType distinct, start, if_pos rfl]
  change ((valueAt _ bindings.plainClauses).map Argument.value).or _ = _
  cases valueAt Vocabulary.postType bindings.plainClauses <;> rfl

end Compilation

namespace Step

def type? : Step → Option String
  | .call (.ofType type) => some type
  | _ => none

def lastType? (steps : List Step) : Option String := (steps.filterMap type?).getLast?

theorem unwritten_of_untyped {step : Step} (untyped : step.type? = none) :
    ∀ written ∈ step.writes, written.name ≠ Vocabulary.postType := by
  have apart : ∀ name ∈ Call.ownNames, name ≠ Vocabulary.postType := by decide
  intro written member
  cases step with
  | call call =>
    rcases Call.name_of_mem_writes member with ⟨⟨type, rfl⟩, _⟩ | ⟨shortcut, targeted⟩ | listed
    · cases untyped
    · rw [targeted]
      cases shortcut <;> decide
    · exact apart _ listed
  | ask terminal =>
    rcases terminal.name_of_mem_writes member with same | same <;> rw [same] <;> decide
  | share _ | reset => cases member

theorem writes_of_typed {step : Step} {type : String} (typed : step.type? = some type) :
    step.writes = [.bind Vocabulary.postType (.str type)] := by
  cases step with
  | call call =>
    cases call <;> cases typed
    rfl
  | ask _ | share _ | reset => cases typed

theorem get?_postType_step (bindings : Bindings) (step : Step) :
    (bindings.writeAll step.writes).get? Vocabulary.postType =
      (step.type?.map (.value ∘ .str)).or (bindings.get? Vocabulary.postType) := by
  cases typed : step.type? with
  | none => rw [Bindings.get?_writeAll_of_unwritten (unwritten_of_untyped typed)]; rfl
  | some type =>
    rw [writes_of_typed typed]
    exact OrderedMap.get?_alter_self ..

theorem get?_postType_steps (bindings : Bindings) (steps : List Step) :
    (bindings.writeAll (steps.flatMap writes)).get? Vocabulary.postType =
      ((lastType? steps).map (.value ∘ .str)).or (bindings.get? Vocabulary.postType) := by
  induction steps generalizing bindings with
  | nil => rfl
  | cons step rest ih =>
    rw [List.flatMap_cons, Bindings.writeAll_append, ih, get?_postType_step, lastType?, lastType?]
    cases typed : step.type? with
    | none => rw [List.filterMap_cons_none typed]; rfl
    | some type =>
      rw [List.filterMap_cons_some typed, List.getLast?_cons]
      cases (rest.filterMap type?).getLast? <;> rfl

end Step

namespace Compilation

def resolvedType (asked : Option String) : String :=
  match asked with
  | some type => if Json.str type ∈ everyType then Vocabulary.any else type
  | none => Vocabulary.any

theorem resolvedType_not_every (asked : Option String) : .str (resolvedType asked) ∉ everyType := by
  have specific : Json.str Vocabulary.any ∉ everyType := by decide
  unfold resolvedType
  split
  · split
    · exact specific
    · assumption
  · exact specific

theorem postType_gather (steps : List Step) :
    postType (Step.gather steps) = .str (resolvedType (Step.lastType? steps)) := by
  have bound : (Step.gather steps).get? Vocabulary.postType =
      (Step.lastType? steps).map (.value ∘ .str) := by
    rw [Step.gather, Step.get?_postType_steps]
    exact Option.or_none
  rw [postType, bound]
  cases Step.lastType? steps with
  | none => rfl
  | some type =>
    change (if wantsEveryType (.str type) then _ else _) = Json.str (if _ then _ else _)
    rw [apply_ite Json.str]
    simp only [wantsEveryType_iff]

end Compilation

namespace Session
open Compilation

-- Whatever the settings say, the last plain clause on the post type decides. Its
-- value is copied as it is, so there alone a request for every type can stay.
-- Without such a clause the last type asked for is resolved.
theorem post_type_after_run (shared : Settings) {steps : List Step} {session : Session}
    (ran : Session.run ⟨shared, .fresh⟩ steps = .ok session) :
    ∃ value, (∀ lookup, (compile lookup session.query.bindings).get? Vocabulary.postType =
        some (.value value)) ∧
      (value ∈ everyType ↔ ∃ written ∈ everyType,
        valueAt Vocabulary.postType (Step.plainClauses steps) = some written) ∧
      (∀ written, valueAt Vocabulary.postType (Step.plainClauses steps) = some written →
        value = written) ∧
      ((∀ clause ∈ Step.plainClauses steps, clause.column ≠ Vocabulary.postType) →
        value = .str (resolvedType (Step.lastType? steps))) := by
  have held : session.query.bindings = Step.gather steps := run_bindings ran
  refine ⟨(valueAt Vocabulary.postType (Step.plainClauses steps)).getD
    (.str (resolvedType (Step.lastType? steps))), ?_, ?_, ?_, ?_⟩
  · intro lookup
    rw [held, get?_compile_postType (Step.nodup_keys_gather steps), Compound.plainClauses_gather,
      postType_gather]
  · cases written : valueAt Vocabulary.postType (Step.plainClauses steps) with
    | none => simp [resolvedType_not_every]
    | some value => simp
  · rintro written copied
    rw [copied]
    rfl
  · intro unwritten
    rw [Compound.valueAt_eq_none_iff.mpr unwritten]
    rfl

def wildcardLast : List Step :=
  [.call (.ofType "page"), .call (.setting "post_type" (.arr [])), .call (.ofType "*"),
    .call (.plain ⟨"post_status", some (.str "draft"), none⟩), .ask .first]

theorem any_after_wildcard :
    ∃ session, Session.run ⟨.initial, .fresh⟩ wildcardLast = .ok session ∧
      session.arguments.get? "post_type" = some (.value (.str "any")) := by
  obtain ⟨value, compiled, -, -, resolved⟩ := @post_type_after_run .initial wildcardLast _ rfl
  refine ⟨_, rfl, (compiled _).trans ?_⟩
  rw [resolved (by decide)]
  rfl

theorem wildcard_of_plain_clause :
    ∃ session, Session.run ⟨.initial, .fresh⟩
        [.call (.plain ⟨"post_type", some (.str "="), some (.str "*")⟩)] = .ok session ∧
      session.arguments.get? "post_type" = some (.value (.str "*")) :=
  ⟨_, rfl, rfl⟩

end Session
end ContentQuery
