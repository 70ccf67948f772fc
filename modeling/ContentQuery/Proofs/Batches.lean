import ContentQuery.Proofs.Inputs
import ContentQuery.Proofs.Insertions
import ContentQuery.Query

namespace ContentQuery

theorem Binding.joined_joined (held : Option Binding) :
    (∀ first second, joined (some (joined held (.plain first))) (.plain second) =
      joined held (.plain (first ++ second))) ∧
    (∀ first second, joined (some (joined held (.metas first))) (.metas second) =
      joined held (.metas (first ++ second))) ∧
    ∀ first second, joined (some (joined held (.taxonomies first))) (.taxonomies second) =
      joined held (.taxonomies (first ++ second)) := by
  cases held with
  | none => exact ⟨fun _ _ => rfl, fun _ _ => rfl, fun _ _ => rfl⟩
  | some held =>
    cases held with
    | value value =>
      cases value <;> exact ⟨fun _ _ => rfl, fun _ _ => rfl, fun _ _ => rfl⟩
    | plain clauses | metas nodes | taxonomies nodes | relations levels => simp [joined]

namespace Query

theorem append_append (query : Query) (name : String) {first second both : Binding}
    (joins : ∀ held, Binding.joined (some (Binding.joined held first)) second =
      Binding.joined held both) :
    (query.append name first).append name second = query.append name both := by
  unfold append Bindings.append
  rw [OrderedMap.alter_alter]
  simp only [joins]

theorem append_addRelations_append (query : Query) {name relationName : String}
    (apart : name ≠ relationName) (first second : Binding) (relations : LevelRelations) :
    ((query.append name first).addRelations relationName relations).append name second =
      ((query.append name first).append name second).addRelations relationName relations := by
  unfold addRelations
  split
  · rfl
  · unfold append Bindings.append
    rw [OrderedMap.alter_alter_comm _ apart]

theorem addRelations_addRelations (query : Query) (name : String)
    (records more : List (Nat × Relation)) :
    (query.addRelations name (.ofList records)).addRelations name (.ofList more) =
      query.addRelations name (.ofList (records ++ more)) := by
  by_cases bare : records = []
  · subst bare
    rfl
  · by_cases silent : more = []
    · subst silent
      rw [List.append_nil]
      rfl
    · have spoken : ∀ {entries : List (Nat × Relation)}, entries ≠ [] →
          ¬ (LevelRelations.ofList entries).entries.isEmpty = true := by
        intro entries filled empty
        exact filled (LevelRelations.entries_ofList_eq_nil.mp (List.isEmpty_iff.mp empty))
      have both : records ++ more ≠ [] := fun empty => bare (List.append_eq_nil_iff.mp empty).1
      unfold addRelations
      simp only [if_neg (spoken bare), if_neg (spoken silent), if_neg (spoken both),
        OrderedMap.alter_alter, LevelRelations.recordAll_ofList, Option.bind_some,
        Binding.relations?, Option.getD_some, LevelRelations.recordEach_append]

theorem gather_gather (query : Query) {name relationName : String} (apart : name ≠ relationName)
    {first second both : Binding}
    (joins : ∀ held, Binding.joined (some (Binding.joined held first)) second =
      Binding.joined held both)
    (records more : List (Nat × Relation)) :
    (((query.append name first).addRelations relationName (.ofList records)).append name
        second).addRelations relationName (.ofList more) =
      (query.append name both).addRelations relationName (.ofList (records ++ more)) := by
  rw [append_addRelations_append query apart, addRelations_addRelations,
    append_append query name joins]

end Query

namespace Input
variable {α γ : Type}

theorem nodesAll_append (normalize : Nat → α → γ) (first second : List (Input α)) :
    nodesAll normalize (first ++ second) =
      nodesAll normalize first ++ nodesAll normalize second := by
  induction first with
  | nil => rfl
  | cons input rest ih => rw [List.cons_append, nodesAll, ih, nodesAll, List.append_assoc]

theorem recordsAll_append (first second : List (Input α)) :
    recordsAll (first ++ second) = recordsAll first ++ recordsAll second := by
  induction first with
  | nil => rfl
  | cons input rest ih => rw [List.cons_append, recordsAll, ih, recordsAll, List.append_assoc]

theorem addAll_append (normalize : Nat → α → γ) (built : Built γ) (first second : List (Input α)) :
    addAll normalize built (first ++ second) =
      addAll normalize (addAll normalize built first) second := by
  induction first generalizing built with
  | nil => rfl
  | cons input rest ih => exact ih (input.addTo normalize built)

mutual

-- The members of an input, with every list in it opened. Nested contexts stay
-- closed.
def opened : Input α → List (Input α)
  | .single filter => [.single filter]
  | .several inputs => openedAll inputs
  | .scope calls relation => [.scope calls relation]

def openedAll : List (Input α) → List (Input α)
  | [] => []
  | input :: rest => input.opened ++ openedAll rest

end

mutual

theorem addAll_opened (normalize : Nat → α → γ) :
    ∀ (built : Built γ) (input : Input α),
      addAll normalize built input.opened = input.addTo normalize built
  | _, .single _ | _, .scope _ _ => rfl
  | built, .several inputs => addAll_openedAll normalize built inputs

theorem addAll_openedAll (normalize : Nat → α → γ) :
    ∀ (built : Built γ) (inputs : List (Input α)),
      addAll normalize built (openedAll inputs) = addAll normalize built inputs
  | _, [] => rfl
  | built, input :: rest => by
    rw [openedAll, addAll_append, addAll_opened normalize built input,
      addAll_openedAll normalize _ rest, addAll]

end

theorem build_openedAll (normalize : Nat → α → γ) (inputs : List (Input α)) :
    (several (openedAll inputs)).build normalize = (several inputs).build normalize :=
  addAll_openedAll normalize ⟨[], .empty⟩ inputs

theorem build_nested (normalize : Nat → α → γ) (before inner after : List (Input α)) :
    (several (before ++ several inner :: after)).build normalize =
      (several (before ++ inner ++ after)).build normalize := by
  change addAll normalize _ _ = addAll normalize _ _
  rw [addAll_append, List.append_assoc, addAll_append, addAll_append]
  rfl

end Input

namespace TaxonomyInput

theorem expandAll_append (first second : List TaxonomyInput) :
    expandAll (first ++ second) = expandAll first ++ expandAll second := by
  induction first with
  | nil => rfl
  | cons input rest ih => rw [List.cons_append, expandAll, ih, expandAll, List.cons_append]

mutual

def opened : TaxonomyInput → List TaxonomyInput
  | .single filter => [.single filter]
  | .several inputs => openedAll inputs
  | .scope selected calls relation => [.scope selected calls relation]

def openedAll : List TaxonomyInput → List TaxonomyInput
  | [] => []
  | input :: rest => input.opened ++ openedAll rest

end

mutual

theorem expandAll_opened : ∀ input : TaxonomyInput, expandAll input.opened = input.expand.opened
  | .single _ | .scope _ _ _ => rfl
  | .several inputs => expandAll_openedAll inputs

theorem expandAll_openedAll :
    ∀ inputs : List TaxonomyInput, expandAll (openedAll inputs) = Input.openedAll (expandAll inputs)
  | [] => rfl
  | input :: rest => by
    rw [openedAll, expandAll_append, expandAll_opened input, expandAll_openedAll rest, expandAll,
      Input.openedAll]

end

theorem build_openedAll (inputs : List TaxonomyInput) :
    (several (openedAll inputs)).build = (several inputs).build := by
  change Input.build _ (.several (expandAll _)) = _
  rw [expandAll_openedAll]
  exact Input.build_openedAll TaxonomyFilter.clause (expandAll inputs)

theorem build_nested (before inner after : List TaxonomyInput) :
    (several (before ++ several inner :: after)).build =
      (several (before ++ inner ++ after)).build := by
  change Input.build _ (.several (expandAll _)) = Input.build _ (.several (expandAll _))
  simp only [expandAll_append]
  exact Input.build_nested TaxonomyFilter.clause (expandAll before) (expandAll inner)
    (expandAll after)

end TaxonomyInput

namespace Query

theorem call_metas (query : Query) (input : MetaInput) :
    query.call (.metas input) =
      .ok ((query.append Vocabulary.metaClauses
        (.metas (Input.nodes MetaFilter.clause input))).addRelations
          Vocabulary.metaRelation (.ofList (Input.records input))) := by
  rw [call, MetaInput.build_eq]

theorem call_taxonomies (query : Query) (input : TaxonomyInput) :
    query.call (.taxonomies input) =
      .ok ((query.append Vocabulary.taxonomyClauses
        (.taxonomies (input.expand.nodes TaxonomyFilter.clause))).addRelations
          Vocabulary.taxonomyRelation (.ofList input.records)) := by
  rw [call, TaxonomyInput.build_eq]

-- A list of inputs may be cut anywhere and given in two calls, in every state of
-- the query: bindings, their order and the relations of all levels are the same.
-- Lists in a list may be opened first, one of them or all at any depth.
theorem batches_join (query : Query) :
    (∀ first second : List MetaInput, ∃ middle last,
      query.call (.metas (.several first)) = .ok middle ∧
      middle.call (.metas (.several second)) = .ok last ∧
      query.call (.metas (.several (first ++ second))) = .ok last) ∧
    (∀ first second : List TaxonomyInput, ∃ middle last,
      query.call (.taxonomies (.several first)) = .ok middle ∧
      middle.call (.taxonomies (.several second)) = .ok last ∧
      query.call (.taxonomies (.several (first ++ second))) = .ok last) ∧
    (∀ first second : List PlainFilter, ∃ middle last,
      query.call (.plains first) = .ok middle ∧ middle.call (.plains second) = .ok last ∧
      query.call (.plains (first ++ second)) = .ok last) ∧
    (∀ inputs : List MetaInput,
      query.call (.metas (.several (Input.openedAll inputs))) =
        query.call (.metas (.several inputs))) ∧
    (∀ before inner after : List MetaInput,
      query.call (.metas (.several (before ++ .several inner :: after))) =
        query.call (.metas (.several (before ++ inner ++ after)))) ∧
    (∀ inputs : List TaxonomyInput,
      query.call (.taxonomies (.several (TaxonomyInput.openedAll inputs))) =
        query.call (.taxonomies (.several inputs))) ∧
    ∀ before inner after : List TaxonomyInput,
      query.call (.taxonomies (.several (before ++ .several inner :: after))) =
        query.call (.taxonomies (.several (before ++ inner ++ after))) := by
  have joins := Binding.joined_joined
  refine ⟨?_, ?_, ?_, ?_, ?_, ?_, ?_⟩
  · intro first second
    refine ⟨_, _, query.call_metas _, call_metas _ _, ?_⟩
    rw [call_metas, Input.nodes, Input.records, Input.nodesAll_append, Input.recordsAll_append]
    refine congrArg Except.ok (query.gather_gather (by decide) ?_ _ _).symm
    exact fun held => (joins held).2.1 _ _
  · intro first second
    refine ⟨_, _, query.call_taxonomies _, call_taxonomies _ _, ?_⟩
    rw [call_taxonomies, TaxonomyInput.records, TaxonomyInput.expand,
      TaxonomyInput.expandAll_append, Input.nodes, Input.records, Input.nodesAll_append,
      Input.recordsAll_append]
    refine congrArg Except.ok (query.gather_gather (by decide) ?_ _ _).symm
    exact fun held => (joins held).2.2 _ _
  · intro first second
    refine ⟨_, _, rfl, rfl, ?_⟩
    rw [call, List.map_append]
    refine congrArg Except.ok (query.append_append Vocabulary.plainClauses ?_).symm
    exact fun held => (joins held).1 _ _
  · intro inputs
    rw [call, call, MetaInput.build, Input.build_openedAll]
    rfl
  · intro before inner after
    rw [call, call, MetaInput.build, Input.build_nested]
    rfl
  · intro inputs
    rw [call, call, TaxonomyInput.build_openedAll]
  · intro before inner after
    rw [call, call, TaxonomyInput.build_nested]

end Query
end ContentQuery
