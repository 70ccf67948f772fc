import ContentQuery.Compilation

namespace ContentQuery.Compilation

def valueAt (argument : String) : List PlainClause → Option Json
  | [] => none
  | clause :: rest =>
    (valueAt argument rest).or (if argument = clause.column then some clause.value else none)

def grown (held : Option Argument) (entries : List ClauseEntry) : Argument :=
  .clauses { heldList held with entries := (heldList held).entries ++ entries }

def related (held : Option Argument) (relation : Relation) : Argument :=
  .clauses { heldList held with relation := some relation }

-- What one binding makes of one argument. Nothing else of the arguments is
-- looked at.
def update (argument name : String) (binding : Binding) (held : Option Argument) : Option Argument :=
  match binding with
  | .plain clauses =>
    if name = Vocabulary.plainClauses then ((valueAt argument clauses).map .value).or held else held
  | .value value =>
    if name = Vocabulary.limit then
      if argument = Vocabulary.pageSize then some (.value (Coercion.integer.apply value)) else held
    else if Vocabulary.isArgument name ∧ name ≠ Vocabulary.postType ∧ argument = name then
      some (.value value)
    else held
  | .metas nodes =>
    if name = Vocabulary.metaClauses ∧ argument = Vocabulary.metaQuery then
      some (grown held (nodes.map (entryOf metaEntry)))
    else held
  | .taxonomies nodes =>
    if name = Vocabulary.taxonomyClauses ∧ argument = Vocabulary.taxonomyQuery then
      some (grown held (nodes.map (entryOf taxonomyEntry)))
    else held
  | .relations relations =>
    if name = Vocabulary.metaRelation ∧ argument = Vocabulary.metaQuery ∨
        name = Vocabulary.taxonomyRelation ∧ argument = Vocabulary.taxonomyQuery then
      (relations.lowest.map (related held)).or held
    else held

theorem get?_insertValue (arguments : Arguments) (name argument : String) (value : Json) :
    (arguments.insertValue name value).get? argument =
      if argument = name then some (.value value) else arguments.get? argument := by
  unfold Arguments.insertValue
  split
  · rename_i same
    rw [same, OrderedMap.get?_insert_self]
  · rename_i away
    rw [OrderedMap.get?_insert_of_ne _ away]

theorem get?_insertClauses (arguments : Arguments) (clauses : List PlainClause) (argument : String) :
    (clauses.foldl (fun arguments clause => arguments.insertValue clause.column clause.value)
      arguments).get? argument = ((valueAt argument clauses).map .value).or (arguments.get? argument) := by
  induction clauses generalizing arguments with
  | nil => rfl
  | cons clause rest ih =>
    rw [List.foldl_cons, ih, get?_insertValue, valueAt]
    cases valueAt argument rest with
    | some later => rfl
    | none =>
      by_cases here : argument = clause.column
      · simp [here]
      · simp [here]

theorem get?_addEntries (arguments : Arguments) (name argument : String) (entries : List ClauseEntry) :
    (addEntries arguments name entries).get? argument =
      if argument = name then some (grown (arguments.get? argument) entries)
      else arguments.get? argument := by
  unfold addEntries
  split
  · rename_i same
    rw [same, OrderedMap.get?_alter_self]
    rfl
  · rename_i away
    rw [OrderedMap.get?_alter_of_ne _ away]

theorem get?_addRelations (arguments : Arguments) (name argument : String)
    (relations : LevelRelations) :
    (addRelations arguments name relations).get? argument =
      if argument = name then
        (relations.lowest.map (related (arguments.get? argument))).or (arguments.get? argument)
      else arguments.get? argument := by
  unfold addRelations
  cases relations.lowest with
  | none => simp
  | some relation =>
    by_cases same : argument = name
    · subst same
      simp [setRelation, related, OrderedMap.get?_alter_self]
    · simp [setRelation, same, OrderedMap.get?_alter_of_ne _ same]

theorem isCompiled_iff {name : String} :
    Vocabulary.isCompiled name = true ↔
      name = Vocabulary.plainClauses ∨ name = Vocabulary.metaClauses ∨
        name = Vocabulary.metaRelation ∨ name = Vocabulary.taxonomyClauses ∨
        name = Vocabulary.taxonomyRelation ∨ name = Vocabulary.limit := by
  simp [Vocabulary.isCompiled, Vocabulary.compiledBindings]

theorem compiled_apart {name : String} (compiled : Vocabulary.isCompiled name = true) :
    name ≠ Vocabulary.postType ∧ Vocabulary.isArgument name = false := by
  rcases isCompiled_iff.mp compiled with rfl | rfl | rfl | rfl | rfl | rfl <;> decide

theorem relation_names_apart : Vocabulary.metaRelation ≠ Vocabulary.taxonomyRelation := by decide

theorem get?_addCompiled {name : String} (compiled : Vocabulary.isCompiled name = true)
    (arguments : Arguments) (binding : Binding) (argument : String) :
    (addCompiled arguments name binding).get? argument =
      update argument name binding (arguments.get? argument) := by
  cases binding with
  | plain clauses =>
    by_cases here : name = Vocabulary.plainClauses
    · simp [addCompiled, update, here, get?_insertClauses]
    · simp [addCompiled, update, here]
  | value value =>
    by_cases here : name = Vocabulary.limit
    · simp [addCompiled, update, here, get?_insertValue]
    · simp [addCompiled, update, here, (compiled_apart compiled).2]
  | metas nodes =>
    by_cases here : name = Vocabulary.metaClauses
    · simp [addCompiled, update, here, get?_addEntries]
    · simp [addCompiled, update, here]
  | taxonomies nodes =>
    by_cases here : name = Vocabulary.taxonomyClauses
    · simp [addCompiled, update, here, get?_addEntries]
    · simp [addCompiled, update, here]
  | relations relations =>
    by_cases here : name = Vocabulary.metaRelation
    · simp [addCompiled, update, here, relation_names_apart, get?_addRelations]
    · by_cases there : name = Vocabulary.taxonomyRelation
      · simp [addCompiled, update, there, relation_names_apart.symm, get?_addRelations]
      · simp [addCompiled, update, here, there]

theorem update_of_plain_name {name : String} (copied : ¬ Vocabulary.isCompiled name = true)
    (argument : String) (binding : Binding) (held : Option Argument) :
    update argument name binding held =
      match binding with
      | .value value =>
        if Vocabulary.isArgument name ∧ name ≠ Vocabulary.postType ∧ argument = name then
          some (.value value)
        else held
      | _ => held := by
  simp only [isCompiled_iff, not_or] at copied
  cases binding <;> simp [update, copied]

theorem get?_addBinding (arguments : Arguments) (name : String) (binding : Binding)
    (argument : String) :
    (addBinding arguments name binding).get? argument =
      update argument name binding (arguments.get? argument) := by
  by_cases compiled : Vocabulary.isCompiled name = true
  · rw [← get?_addCompiled compiled]
    simp [addBinding, (compiled_apart compiled).1, compiled]
  · rw [update_of_plain_name compiled]
    by_cases reserved : name = Vocabulary.postType
    · cases binding <;> simp [addBinding, reserved]
    · by_cases known : Vocabulary.isArgument name = true
      · cases binding <;> simp [addBinding, reserved, compiled, known, get?_insertValue]
      · cases binding <;> simp [addBinding, reserved, compiled, known]

def start (lookup : Lookup) (bindings : Bindings) (argument : String) : Option Argument :=
  if argument = Vocabulary.postType then some (.value (postType bindings))
  else if Vocabulary.isArgument argument then (lookup argument).map .value
  else none

theorem start_cases (lookup : Lookup) (bindings : Bindings) (argument : String) :
    start lookup bindings argument = none ∨
      ∃ value, start lookup bindings argument = some (.value value) := by
  unfold start
  split
  · exact .inr ⟨_, rfl⟩
  · split
    · cases lookup argument with
      | none => exact .inl rfl
      | some value => exact .inr ⟨value, rfl⟩
    · exact .inl rfl

theorem get?_addDefaults (lookup : Lookup) (names : List String) (arguments : Arguments)
    (argument : String) :
    (names.foldl (addDefault lookup) arguments).get? argument =
      if argument ∈ names then ((lookup argument).map .value).or (arguments.get? argument)
      else arguments.get? argument := by
  induction names generalizing arguments with
  | nil => simp
  | cons name rest ih =>
    rw [List.foldl_cons, ih]
    by_cases same : argument = name
    · subst same
      cases found : lookup argument <;> simp [addDefault, found, get?_insertValue]
    · cases found : lookup name <;> simp [addDefault, found, get?_insertValue, same]

theorem get?_defaults (lookup : Lookup) (argument : String) :
    (defaults lookup).get? argument =
      if Vocabulary.isArgument argument then (lookup argument).map .value else none := by
  rw [defaults, get?_addDefaults]
  simp only [Vocabulary.isArgument, List.contains_iff_mem]
  split
  · cases lookup argument <;> rfl
  · rfl

theorem get?_addBindings (entries : List (String × Binding)) (arguments : Arguments)
    (argument : String) :
    (entries.foldl (fun arguments entry => addBinding arguments entry.1 entry.2)
      arguments).get? argument =
      entries.foldl (fun held entry => update argument entry.1 entry.2 held)
        (arguments.get? argument) := by
  induction entries generalizing arguments with
  | nil => rfl
  | cons entry rest ih => rw [List.foldl_cons, List.foldl_cons, ih, get?_addBinding]

theorem get?_compile (lookup : Lookup) (bindings : Bindings) (argument : String) :
    (compile lookup bindings).get? argument =
      bindings.entries.foldl (fun held entry => update argument entry.1 entry.2 held)
        (start lookup bindings argument) := by
  rw [compile, get?_addBindings, get?_insertValue, get?_defaults]
  rfl

end ContentQuery.Compilation
