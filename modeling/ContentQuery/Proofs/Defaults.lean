import ContentQuery.Proofs.Slots

namespace ContentQuery

-- A binding writes what its name stands for, if it has the shape of the name.
-- Plain clauses write the arguments that their columns name, and relations of
-- no level write nothing.
def Binding.Writes (name argument : String) : Binding → Prop
  | .plain clauses => name = Vocabulary.plainClauses ∧ ∃ clause ∈ clauses, clause.column = argument
  | .value _ =>
    name = Vocabulary.limit ∧ argument = Vocabulary.pageSize ∨
      Vocabulary.isArgument name = true ∧ argument = name
  | .metas _ => name = Vocabulary.metaClauses ∧ argument = Vocabulary.metaQuery
  | .taxonomies _ => name = Vocabulary.taxonomyClauses ∧ argument = Vocabulary.taxonomyQuery
  | .relations levels =>
    (name = Vocabulary.metaRelation ∧ argument = Vocabulary.metaQuery ∨
      name = Vocabulary.taxonomyRelation ∧ argument = Vocabulary.taxonomyQuery) ∧
      levels.entries ≠ []

def Bindings.Writes (bindings : Bindings) (argument : String) : Prop :=
  ∃ entry ∈ bindings.entries, entry.2.Writes entry.1 argument

namespace Compilation

theorem limit_unknown : Vocabulary.isArgument Vocabulary.limit = false := by decide

theorem update_none_ne_none_iff {argument name : String} (free : argument ≠ Vocabulary.postType)
    {binding : Binding} :
    update argument name binding none ≠ none ↔ binding.Writes name argument := by
  cases binding with
  | plain clauses =>
    by_cases here : name = Vocabulary.plainClauses
    · simp [update, Binding.Writes, here, Compound.valueAt_eq_none_iff]
    · simp [update, Binding.Writes, here]
  | value value =>
    by_cases here : name = Vocabulary.limit
    · simp [update, Binding.Writes, here, limit_unknown]
    · have unreserved : argument = name → name ≠ Vocabulary.postType := fun same => same ▸ free
      simpa [update, Binding.Writes, here] using fun _ => unreserved
  | metas nodes => simp [update, Binding.Writes]
  | taxonomies nodes => simp [update, Binding.Writes]
  | relations levels =>
    simp only [update, Binding.Writes, ne_eq, ← LevelRelations.lowest_eq_none_iff]
    split
    · rename_i named
      simp [named]
    · rename_i unnamed
      simp [unnamed]

-- Settings come in ahead of the bindings, and no binding looks at a value. So
-- they count just where the bindings come to nothing.
theorem get?_compile_eq_or (lookup : Lookup) (bindings : Bindings) (argument : String) :
    (compile lookup bindings).get? argument =
      (overlay argument bindings.entries).or (start lookup bindings argument) := by
  rw [get?_compile]
  rcases start_cases lookup bindings argument with absent | ⟨value, given⟩
  · rw [absent, Option.or_none]
    rfl
  · rw [given]
    exact foldl_update_or_value argument bindings.entries none value

theorem overlay_ne_none_iff {bindings : Bindings} {argument : String}
    (free : argument ≠ Vocabulary.postType) :
    overlay argument bindings.entries ≠ none ↔ bindings.Writes argument := by
  simp only [ne_eq, overlay_eq_none_iff, Bindings.Writes, ← update_none_ne_none_iff free,
    Classical.not_forall, exists_prop]

theorem get?_compile_of_unwritten {bindings : Bindings} {argument : String}
    (unwritten : ¬ bindings.Writes argument) (free : argument ≠ Vocabulary.postType)
    (lookup : Lookup) :
    (compile lookup bindings).get? argument =
      if Vocabulary.isArgument argument then (lookup argument).map .value else none := by
  have bare : overlay argument bindings.entries = none :=
    Classical.not_not.mp fun filled => unwritten ((overlay_ne_none_iff free).mp filled)
  rw [get?_compile_eq_or, bare, Option.none_or, start, if_neg free]

theorem exists_get?_compile_of_written {bindings : Bindings} {argument : String}
    (written : bindings.Writes argument ∨ argument = Vocabulary.postType) :
    ∃ held, ∀ lookup, (compile lookup bindings).get? argument = some held := by
  cases filled : overlay argument bindings.entries with
  | some held => exact ⟨held, fun lookup => by rw [get?_compile_eq_or, filled, Option.some_or]⟩
  | none =>
    have typed : argument = Vocabulary.postType := by
      rcases written with written | same
      · exact Classical.not_not.mp fun free => (overlay_ne_none_iff free).mpr written filled
      · exact same
    refine ⟨.value (postType bindings), fun lookup => ?_⟩
    rw [get?_compile_eq_or, filled, Option.none_or, start, if_pos typed]

end Compilation

-- Settings supply defaults alone. What the bindings write, and the post type, is
-- the same whatever the settings say; any other argument is what they say of it,
-- if it is one that they may speak of at all.
theorem settings_supply_defaults (bindings : Bindings) :
    (∀ argument, bindings.Writes argument ∨ argument = Vocabulary.postType →
      ∃ held, ∀ lookup, (compile lookup bindings).get? argument = some held) ∧
    ∀ argument, ¬ bindings.Writes argument → argument ≠ Vocabulary.postType → ∀ lookup,
      (compile lookup bindings).get? argument =
        if Vocabulary.isArgument argument then (lookup argument).map .value else none :=
  ⟨fun _ => Compilation.exists_get?_compile_of_written,
    fun _ => Compilation.get?_compile_of_unwritten⟩

def drafts : Bindings :=
  ⟨[("whereMetaRelation", .relations (.ofList [(2, .or)])), ("limit", .value (Json.int 5)),
    ("wheres", .plain [⟨"post_status", "=", .str "draft"⟩])]⟩

theorem settings_behind_drafts :
    (∃ held, ∀ lookup, (compile lookup drafts).get? "post_status" = some held) ∧
    (∃ held, ∀ lookup, (compile lookup drafts).get? "posts_per_page" = some held) ∧
    (∃ held, ∀ lookup, (compile lookup drafts).get? "meta_query" = some held) ∧
    ∀ lookup, (compile lookup drafts).get? "orderby" = (lookup "orderby").map .value := by
  obtain ⟨fixed, unfixed⟩ := settings_supply_defaults drafts
  refine ⟨fixed _ (.inl ⟨_, .tail _ (.tail _ (.head _)), ?_⟩),
    fixed _ (.inl ⟨_, .tail _ (.head _), ?_⟩), fixed _ (.inl ⟨_, .head _, ?_⟩), ?_⟩
  · exact ⟨rfl, _, .head _, rfl⟩
  · exact .inl ⟨rfl, rfl⟩
  · exact ⟨.inl ⟨rfl, rfl⟩, List.cons_ne_nil _ _⟩
  · refine unfixed "orderby" ?_ (by decide)
    simp [Bindings.Writes, Binding.Writes, drafts, Vocabulary.isArgument]
    decide

end ContentQuery
