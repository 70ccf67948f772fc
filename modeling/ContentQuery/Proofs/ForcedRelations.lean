import ContentQuery.Proofs.Contexts

namespace ContentQuery

-- The level at which a relation of this member is recorded. A nested context
-- counts at the top level, however deep the clauses in it are.
def Member.level {α χ : Type} : Member α χ → Nat
  | .filter placed => placed.level.getD topLevel
  | .scope _ => topLevel

section Members
variable {α χ γ : Type} {members : List (Member α χ)} {level : Nat}

theorem mem_levels_iff :
    level ∈ members.map Member.level ↔
      (∃ filter, .filter filter ∈ members ∧ filter.level.getD topLevel = level) ∨
        level = topLevel ∧ ∃ inner, .scope inner ∈ members := by
  rw [List.mem_map]
  constructor
  · rintro ⟨member, held, here⟩
    cases member with
    | filter filter => exact .inl ⟨filter, held, here⟩
    | scope inner => exact .inr ⟨here.symm, inner, held⟩
  · rintro (⟨filter, held, here⟩ | ⟨top, inner, held⟩)
    · exact ⟨.filter filter, held, here⟩
    · exact ⟨.scope inner, held, top.symm⟩

structure Forced (plain forced : Built γ) (members : List (Member α χ)) (relation : Relation) :
    Prop where
  nodes : forced.nodes = plain.nodes
  spoken : members ≠ [] → forced.relations.entries ≠ []
  levels : ∀ level, forced.relations.find? level ≠ none ↔
    (∃ filter, .filter filter ∈ members ∧ filter.level.getD topLevel = level) ∨
      level = topLevel ∧ ∃ inner, .scope inner ∈ members
  same : ∀ level held, forced.relations.find? level = some held → held = relation

end Members

namespace LevelRelations

theorem find?_ofList_alike (levels : List Nat) (relation : Relation) (level : Nat) :
    (ofList (levels.map fun level => (level, relation))).find? level =
      if level ∈ levels then some relation else none := by
  rw [find?_ofList]
  induction levels with
  | nil => rfl
  | cons head rest ih =>
    rw [List.map_cons]
    by_cases here : level = head
    · subst here
      rw [List.lookup_cons_self, if_pos List.mem_cons_self]
    · rw [OrderedMap.lookup_cons_of_ne here, ih]
      simp only [List.mem_cons, here, false_or]

end LevelRelations

namespace Input
variable {α γ : Type} (name : String)

mutual

theorem nodes_withRelation (normalize : Nat → α → γ) :
    ∀ input : Input α, (input.withRelation name).nodes normalize = input.nodes normalize
  | .single _ | .scope _ _ => rfl
  | .several inputs => nodesAll_withRelations normalize inputs

theorem nodesAll_withRelations (normalize : Nat → α → γ) :
    ∀ inputs : List (Input α),
      nodesAll normalize (withRelations name inputs) = nodesAll normalize inputs
  | [] => rfl
  | input :: rest => by
    rw [withRelations, nodesAll, nodesAll, nodes_withRelation normalize input,
      nodesAll_withRelations normalize rest]

end

mutual

theorem records_withRelation : ∀ input : Input α,
    (input.withRelation name).records =
      (input.parts.map Member.level).map fun level => (level, Relation.ofName name)
  | .single _ | .scope _ _ => rfl
  | .several inputs => recordsAll_withRelations inputs

theorem recordsAll_withRelations : ∀ inputs : List (Input α),
    recordsAll (withRelations name inputs) =
      ((partsAll inputs).map Member.level).map fun level => (level, Relation.ofName name)
  | [] => rfl
  | input :: rest => by
    rw [withRelations, recordsAll, partsAll, List.map_append, List.map_append,
      records_withRelation input, recordsAll_withRelations rest]

end

mutual

theorem withRelation_withRelation (other : String) : ∀ input : Input α,
    (input.withRelation name).withRelation other = input.withRelation other
  | .single _ | .scope _ _ => rfl
  | .several inputs => congrArg Input.several (withRelations_withRelations other inputs)

theorem withRelations_withRelations (other : String) : ∀ inputs : List (Input α),
    withRelations other (withRelations name inputs) = withRelations other inputs
  | [] => rfl
  | input :: rest => by
    rw [withRelations, withRelations, withRelations, withRelation_withRelation other input,
      withRelations_withRelations other rest]

end

-- The members may be those of the same input before its helpers were spelled
-- out; only their levels count.
theorem forced_withRelation {χ : Type} (normalize : Nat → α → γ) (input : Input α)
    {members : List (Member α χ)}
    (levels : input.parts.map Member.level = members.map Member.level) :
    Forced (input.build normalize) ((input.withRelation name).build normalize) members
      (Relation.ofName name) := by
  have found : ∀ level, ((input.withRelation name).build normalize).relations.find? level =
      if level ∈ members.map Member.level then some (Relation.ofName name) else none := by
    intro level
    rw [build_eq, records_withRelation, levels]
    exact LevelRelations.find?_ofList_alike _ _ level
  refine ⟨?_, ?_, ?_, ?_⟩
  · rw [build_eq, build_eq]
    exact nodes_withRelation name normalize input
  · intro filled bare
    rw [build_eq, records_withRelation, levels] at bare
    have none := LevelRelations.entries_ofList_eq_nil.mp bare
    exact filled (List.map_eq_nil_iff.mp (List.map_eq_nil_iff.mp none))
  · intro level
    rw [found, ← mem_levels_iff]
    split <;> simp [*]
  · intro level held recorded
    rw [found] at recorded
    split at recorded
    · exact (Option.some.inj recorded).symm
    · cases recorded

end Input

namespace TaxonomyInput

mutual

theorem expand_withRelation (name : String) : ∀ input : TaxonomyInput,
    (input.withRelation name).expand = input.expand.withRelation name
  | .single _ | .scope _ _ _ => rfl
  | .several inputs => congrArg Input.several (expandAll_withRelations name inputs)

theorem expandAll_withRelations (name : String) : ∀ inputs : List TaxonomyInput,
    expandAll (withRelations name inputs) = Input.withRelations name (expandAll inputs)
  | [] => rfl
  | input :: rest => by
    rw [withRelations, expandAll, expandAll, Input.withRelations, expand_withRelation name input,
      expandAll_withRelations name rest]

end

mutual

theorem levels_expand : ∀ input : TaxonomyInput,
    input.expand.parts.map Member.level = input.parts.map Member.level
  | .single _ | .scope _ _ _ => rfl
  | .several inputs => levels_expandAll inputs

theorem levels_expandAll : ∀ inputs : List TaxonomyInput,
    (Input.partsAll (expandAll inputs)).map Member.level = (partsAll inputs).map Member.level
  | [] => rfl
  | input :: rest => by
    rw [expandAll, Input.partsAll, partsAll, List.map_append, List.map_append,
      levels_expand input, levels_expandAll rest]

end

end TaxonomyInput

-- Forcing a relation changes nothing but the relations, and of these it leaves
-- none that was there before: each level of a member has the forced one, and no
-- other level has any. The relation forced last is the only one that counts.
theorem forced_relations :
    (∀ (input : MetaInput) (name : String),
      Forced input.build (MetaInput.build (Input.withRelation name input)) (Input.parts input)
        (Relation.ofName name) ∧
      ∀ other, MetaInput.build (Input.withRelation other (Input.withRelation name input)) =
        MetaInput.build (Input.withRelation other input)) ∧
    ∀ (input : TaxonomyInput) (name : String),
      Forced input.build (input.withRelation name).build input.parts (Relation.ofName name) ∧
      ∀ other, ((input.withRelation name).withRelation other).build =
        (input.withRelation other).build := by
  refine ⟨?_, ?_⟩
  · intro input name
    refine ⟨Input.forced_withRelation name MetaFilter.clause input rfl, ?_⟩
    intro other
    rw [Input.withRelation_withRelation]
  · intro input name
    have forced := Input.forced_withRelation name TaxonomyFilter.clause input.expand
      input.levels_expand
    rw [← TaxonomyInput.expand_withRelation] at forced
    refine ⟨forced, ?_⟩
    intro other
    simp only [TaxonomyInput.build, TaxonomyInput.expand_withRelation,
      Input.withRelation_withRelation]

example :
    (MetaInput.build (Input.withRelation "or" (.several [
      .single { filter := { column := "price" }, relation := some "and", level := some 3 },
      .scope [.add { filter := { column := "size" }, level := some 2 }] (some "and")
    ]))).relations.entries = [(1, .or), (3, .or)] := by
  decide

end ContentQuery
