import ContentQuery.Proofs.Compound
import ContentQuery.Proofs.Inputs
import ContentQuery.Proofs.Writes

namespace ContentQuery

def Step.clauses? : Step → Option (List PlainClause)
  | .call (.plain filter) =>
    match filter.strict with
    | .ok clause => some [clause]
    | .error _ => none
  | .call (.plains filters) => some (filters.map PlainFilter.lenient)
  | _ => none

namespace Compound

def entries? : Compound → Step → Option (List ClauseEntry)
  | metas, .call (.metas input) => some (MetaInput.entries input)
  | taxonomies, .call (.taxonomies input) => some (TaxonomyInput.entries input)
  | _, _ => none

def records : Compound → Step → List (Nat × Relation)
  | metas, .call (.metas input) => Input.records input
  | taxonomies, .call (.taxonomies input) => TaxonomyInput.records input
  | _, _ => []

theorem records_of_entries?_none {compound : Compound} {step : Step}
    (absent : compound.entries? step = none) : compound.records step = [] := by
  cases compound <;> rcases step with call | _ | _ | _ <;> try rfl
  all_goals cases call <;> first | rfl | cases absent

end Compound

-- All that a step can do to the bindings: add plain clauses, add to one compound,
-- or set values of known names.
inductive Step.Effect (step : Step) : Prop where
  | plain (clauses : List PlainClause) (own : step.clauses? = some clauses)
      (apart : ∀ compound : Compound, compound.entries? step = none)
      (written : step.writes = [.append Vocabulary.plainClauses (.plain clauses)])
  | compound (compound : Compound) (binding : Binding) (entries : List ClauseEntry)
      (holds : compound.gathered? binding = some entries)
      (own : compound.entries? step = some entries)
      (apart : compound.other.entries? step = none) (unplain : step.clauses? = none)
      (written : step.writes = .append compound.clauseName binding ::
        Call.relationWrites compound.relationName (.ofList (compound.records step)))
  | values (unplain : step.clauses? = none)
      (apart : ∀ compound : Compound, compound.entries? step = none)
      (written : ∀ written ∈ step.writes, ∃ name value, written = .bind name value ∧
        (name = Vocabulary.limit ∨ Vocabulary.isArgument name = true))

theorem Shortcut.isArgument_target (shortcut : Shortcut) :
    Vocabulary.isArgument shortcut.target = true := by
  cases shortcut <;> decide

namespace Step

theorem effect_of_bind {step : Step} {name : String} {value : Json}
    (unplain : step.clauses? = none) (apart : ∀ compound : Compound, compound.entries? step = none)
    (written : step.writes = [.bind name value])
    (known : name = Vocabulary.limit ∨ Vocabulary.isArgument name = true) : step.Effect := by
  refine .values unplain apart ?_
  intro one member
  rw [written, List.mem_singleton] at member
  exact ⟨name, value, member, known⟩

theorem effect_of_silent {step : Step} (unplain : step.clauses? = none)
    (apart : ∀ compound : Compound, compound.entries? step = none) (written : step.writes = []) :
    step.Effect := by
  refine .values unplain apart ?_
  intro one member
  simp [written] at member

theorem effect_call (made : Call) : (Step.call made).Effect := by
  cases made with
  | plain filter =>
    have apart : ∀ compound : Compound, compound.entries? (.call (.plain filter)) = none :=
      fun compound => by cases compound <;> rfl
    cases checked : filter.strict with
    | ok clause =>
      refine .plain [clause] ?_ apart ?_
      · simp [clauses?, checked]
      · simp [writes, Call.writes, checked]
    | error failure =>
      refine Step.effect_of_silent ?_ apart ?_
      · simp [clauses?, checked]
      · simp [writes, Call.writes, checked]
  | plains filters => exact .plain _ rfl (fun compound => by cases compound <;> rfl) rfl
  | metas input =>
    refine .compound .metas (.metas (Input.nodes MetaFilter.clause input)) _ rfl rfl rfl rfl ?_
    simp only [writes, Call.writes, MetaInput.build_eq]
    rfl
  | taxonomies input =>
    refine .compound .taxonomies (.taxonomies (input.expand.nodes TaxonomyFilter.clause)) _
      rfl rfl rfl rfl ?_
    simp only [writes, Call.writes, TaxonomyInput.build_eq]
    rfl
  | shortcut name value =>
    have apart : ∀ compound : Compound, compound.entries? (.call (.shortcut name value)) = none :=
      fun compound => by cases compound <;> rfl
    cases known : Shortcut.named? name with
    | ok shortcut =>
      have written : (Step.call (.shortcut name value)).writes =
          [.bind shortcut.target (shortcut.value value)] := by
        simp only [writes, Call.writes, known]
      exact Step.effect_of_bind rfl apart written (.inr shortcut.isArgument_target)
    | error failure =>
      refine Step.effect_of_silent rfl apart ?_
      simp only [writes, Call.writes, known]
  | apply known value =>
    exact Step.effect_of_bind rfl (fun compound => by cases compound <;> rfl) rfl
      (.inr known.isArgument_target)
  | limit count =>
    exact Step.effect_of_bind rfl (fun compound => by cases compound <;> rfl) rfl (.inl rfl)
  | ofType _ | offset _ | order _ | orderBy _ =>
    exact Step.effect_of_bind rfl (fun compound => by cases compound <;> rfl) rfl (.inr (by decide))
  | orderByIn column direction =>
    refine .values rfl (fun compound => by cases compound <;> rfl) ?_
    intro one member
    rcases List.mem_cons.mp member with rfl | member
    · exact ⟨_, _, rfl, .inr (by decide)⟩
    · exact ⟨_, _, List.mem_singleton.mp member, .inr (by decide)⟩
  | configure _ | configureWith _ | withStore _ | formatWith _ =>
    exact Step.effect_of_silent rfl (fun compound => by cases compound <;> rfl) rfl

theorem effect (step : Step) : step.Effect := by
  cases step with
  | call made => exact effect_call made
  | ask terminal =>
    have apart : ∀ compound : Compound, compound.entries? (.ask terminal) = none :=
      fun compound => by cases compound <;> rfl
    cases terminal with
    | first | all => exact Step.effect_of_bind rfl apart rfl (.inr (by decide))
    | find id =>
      refine .values rfl apart ?_
      intro one member
      rcases List.mem_cons.mp member with rfl | member
      · exact ⟨_, _, rfl, .inr (by decide)⟩
      · exact ⟨_, _, List.mem_singleton.mp member, .inr (by decide)⟩
    | get | count | pluck _ | aggregate _ => exact Step.effect_of_silent rfl apart rfl
  | share _ | reset =>
    exact Step.effect_of_silent rfl (fun compound => by cases compound <;> rfl) rfl

end Step

namespace Compound

theorem clauseName_other (compound : Compound) :
    compound.other.clauseName ≠ compound.clauseName ∧
      compound.other.clauseName ≠ compound.relationName ∧
      compound.other.relationName ≠ compound.clauseName ∧
      compound.other.relationName ≠ compound.relationName := by
  cases compound <;> decide

theorem values_apart (compound : Compound) {name : String}
    (known : name = Vocabulary.limit ∨ Vocabulary.isArgument name = true) :
    name ≠ Vocabulary.plainClauses ∧ name ≠ compound.clauseName ∧ name ≠ compound.relationName := by
  refine ⟨?_, ?_, ?_⟩
  all_goals
    rintro rfl
    revert known
    cases compound <;> decide

theorem name_of_mem_relationWrites {name : String} {relations : LevelRelations} {written : Write}
    (member : written ∈ Call.relationWrites name relations) : written.name = name := by
  unfold Call.relationWrites at member
  split at member
  · simp at member
  · rw [List.mem_singleton.mp member]
    rfl

theorem gathered?_joined {compound : Compound} {binding : Binding} {entries : List ClauseEntry}
    (holds : compound.gathered? binding = some entries) (held : Option Binding) :
    compound.gathered? (.joined held binding) =
      some ((held.bind compound.gathered?).getD [] ++ entries) := by
  cases compound with
  | metas =>
    cases binding <;> cases holds
    cases held with
    | none => rfl
    | some held => cases held <;> simp [Binding.joined, gathered?]
  | taxonomies =>
    cases binding <;> cases holds
    cases held with
    | none => rfl
    | some held => cases held <;> simp [Binding.joined, gathered?]

inductive Effect (compound : Compound) (step : Step) : Prop where
  | own (binding : Binding) (entries : List ClauseEntry)
      (holds : compound.gathered? binding = some entries)
      (own : compound.entries? step = some entries)
      (written : step.writes = .append compound.clauseName binding ::
        Call.relationWrites compound.relationName (.ofList (compound.records step)))
  | apart (absent : compound.entries? step = none)
      (unwritten : ∀ written ∈ step.writes,
        written.name ≠ compound.clauseName ∧ written.name ≠ compound.relationName)

theorem effect (compound : Compound) (step : Step) : compound.Effect step := by
  obtain ⟨_, offClauses, offRelations⟩ := compound.names_apart
  cases step.effect with
  | plain clauses own absent written =>
    refine .apart (absent compound) ?_
    intro one member
    rw [written, List.mem_singleton] at member
    subst member
    exact ⟨offClauses.symm, offRelations.symm⟩
  | values unplain absent written =>
    refine .apart (absent compound) ?_
    intro one member
    obtain ⟨name, value, rfl, known⟩ := written one member
    exact (compound.values_apart known).2
  | compound kind binding entries holds own absent unplain written =>
    by_cases same : kind = compound
    · subst same
      exact .own binding entries holds own written
    · have others : compound = kind.other := by
        cases kind <;> cases compound <;> first | rfl | exact absurd rfl same
      subst others
      obtain ⟨clauses, crossed, crossed', relations⟩ := kind.clauseName_other
      refine .apart absent ?_
      intro one member
      rw [written] at member
      rcases List.mem_cons.mp member with rfl | member
      · exact ⟨clauses.symm, crossed'.symm⟩
      · rw [name_of_mem_relationWrites member]
        exact ⟨crossed.symm, relations.symm⟩

-- Clauses added to what a slot held. No call leaves the slot as it was, a call
-- without clauses still takes it.
def extended (held : Option (List ClauseEntry)) : List (List ClauseEntry) → Option (List ClauseEntry)
  | [] => held
  | calls => some (held.getD [] ++ calls.flatten)

theorem extended_append (held : Option (List ClauseEntry)) (first second : List (List ClauseEntry)) :
    extended held (first ++ second) = extended (extended held first) second := by
  cases first <;> cases second <;> simp [extended]

theorem slot_step (compound : Compound) (bindings : Bindings) (step : Step) :
    compound.slot (bindings.writeAll step.writes) =
      extended (compound.slot bindings) (compound.entries? step).toList := by
  unfold slot
  cases compound.effect step with
  | apart absent unwritten =>
    rw [absent, Bindings.get?_writeAll_of_unwritten fun one member => (unwritten one member).1]
    rfl
  | own binding entries holds own written =>
    have behind : ∀ written ∈ Call.relationWrites compound.relationName
        (.ofList (compound.records step)), written.name ≠ compound.clauseName := by
      intro one member
      rw [name_of_mem_relationWrites member]
      exact compound.names_apart.1.symm
    rw [own, written]
    change (((bindings.append compound.clauseName binding).writeAll _).get? _).bind _ = _
    rw [Bindings.get?_writeAll_of_unwritten behind, Bindings.append, OrderedMap.get?_alter_self]
    simpa [extended] using gathered?_joined holds (bindings.get? compound.clauseName)

theorem levels_relationWrites (compound : Compound) (bindings : Bindings)
    (records : List (Nat × Relation)) :
    compound.levels (bindings.writeAll
      (Call.relationWrites compound.relationName (.ofList records))) =
        (compound.levels bindings).recordEach records := by
  unfold Call.relationWrites
  split
  · rename_i bare
    have unspoken : records = [] := LevelRelations.entries_ofList_eq_nil.mp (List.isEmpty_iff.mp bare)
    rw [unspoken]
    rfl
  · unfold levels
    change (((bindings.alter compound.relationName _).get? _).bind _).getD _ = _
    rw [OrderedMap.get?_alter_self]
    exact LevelRelations.recordAll_ofList _ records

theorem levels_step (compound : Compound) (bindings : Bindings) (step : Step) :
    compound.levels (bindings.writeAll step.writes) =
      (compound.levels bindings).recordEach (compound.records step) := by
  cases compound.effect step with
  | apart absent unwritten =>
    rw [records_of_entries?_none absent]
    unfold levels
    rw [Bindings.get?_writeAll_of_unwritten fun one member => (unwritten one member).2]
    rfl
  | own binding entries holds own written =>
    have kept : compound.levels (bindings.append compound.clauseName binding) =
        compound.levels bindings := by
      unfold levels Bindings.append
      rw [OrderedMap.get?_alter_of_ne _ compound.names_apart.1.symm]
    rw [written]
    change compound.levels ((bindings.append compound.clauseName binding).writeAll _) = _
    rw [levels_relationWrites, kept]

theorem slot_steps (compound : Compound) (bindings : Bindings) (steps : List Step) :
    compound.slot (bindings.writeAll (steps.flatMap Step.writes)) =
      extended (compound.slot bindings) (steps.filterMap compound.entries?) := by
  induction steps generalizing bindings with
  | nil => rfl
  | cons step rest ih =>
    rw [List.flatMap_cons, Bindings.writeAll_append, ih, slot_step, ← extended_append]
    cases own : compound.entries? step <;> simp [own]

theorem levels_steps (compound : Compound) (bindings : Bindings) (steps : List Step) :
    compound.levels (bindings.writeAll (steps.flatMap Step.writes)) =
      (compound.levels bindings).recordEach (steps.flatMap compound.records) := by
  induction steps generalizing bindings with
  | nil => rfl
  | cons step rest ih =>
    rw [List.flatMap_cons, Bindings.writeAll_append, ih, levels_step, List.flatMap_cons,
      LevelRelations.recordEach_append]

end Compound

namespace Step

theorem unwritten_of_unplain {step : Step} (unplain : step.clauses? = none) :
    ∀ written ∈ step.writes, written.name ≠ Vocabulary.plainClauses := by
  cases step.effect with
  | plain clauses own => rw [own] at unplain; cases unplain
  | compound kind binding entries holds own absent unplain written =>
    obtain ⟨_, offClauses, offRelations⟩ := kind.names_apart
    intro one member
    rw [written] at member
    rcases List.mem_cons.mp member with rfl | member
    · exact offClauses
    · rw [Compound.name_of_mem_relationWrites member]
      exact offRelations
  | values unplain absent written =>
    intro one member
    obtain ⟨name, value, rfl, known⟩ := written one member
    exact (Compound.metas.values_apart known).1

theorem accepted_of_plain {step : Step} {clauses : List PlainClause}
    (plain : step.clauses? = some clauses) : step.Accepted := by
  rcases step with made | _ | _ | _
  · cases made with
    | plain filter =>
      cases checked : filter.strict with
      | ok clause => exact ⟨clause, checked⟩
      | error failure => simp [clauses?, checked] at plain
    | plains _ => trivial
    | _ => cases plain
  all_goals trivial

theorem writes_of_plain {step : Step} {clauses : List PlainClause}
    (plain : step.clauses? = some clauses) :
    step.writes = [.append Vocabulary.plainClauses (.plain clauses)] := by
  cases step.effect with
  | plain clauses own absent written =>
    rw [own] at plain
    cases plain
    exact written
  | compound kind binding entries holds own absent unplain =>
    rw [unplain] at plain
    cases plain
  | values unplain =>
    rw [unplain] at plain
    cases plain

end Step

namespace Bindings

def plainClauses (bindings : Bindings) : List PlainClause :=
  ((bindings.get? Vocabulary.plainClauses).bind Binding.plain?).getD []

theorem plainClauses_step (bindings : Bindings) (step : Step) :
    (bindings.writeAll step.writes).plainClauses =
      bindings.plainClauses ++ step.clauses?.getD [] := by
  unfold plainClauses
  cases own : step.clauses? with
  | none =>
    rw [get?_writeAll_of_unwritten (Step.unwritten_of_unplain own)]
    exact (List.append_nil _).symm
  | some clauses =>
    rw [Step.writes_of_plain own]
    change (((bindings.append Vocabulary.plainClauses (.plain clauses)).get? _).bind _).getD _ = _
    rw [append, OrderedMap.get?_alter_self]
    cases bindings.get? Vocabulary.plainClauses with
    | none => rfl
    | some held => cases held <;> simp [Binding.joined, Binding.plain?]

theorem plainClauses_steps (bindings : Bindings) (steps : List Step) :
    (bindings.writeAll (steps.flatMap Step.writes)).plainClauses =
      bindings.plainClauses ++ (steps.filterMap Step.clauses?).flatten := by
  induction steps generalizing bindings with
  | nil => exact (List.append_nil _).symm
  | cons step rest ih =>
    rw [List.flatMap_cons, writeAll_append, ih, plainClauses_step, List.append_assoc]
    cases own : step.clauses? <;> simp [own]

end Bindings

def Call.ownNames : List String :=
  [Vocabulary.plainClauses, Vocabulary.metaClauses, Vocabulary.metaRelation,
    Vocabulary.taxonomyClauses, Vocabulary.taxonomyRelation, Vocabulary.limit, Vocabulary.offset,
    Vocabulary.order, Vocabulary.orderBy]

theorem Call.name_of_mem_writes {call : Call} {written : Write} (member : written ∈ call.writes) :
    ((∃ type, call = .ofType type) ∧ written.name = Vocabulary.postType) ∨
      (∃ shortcut : Shortcut, written.name = shortcut.target) ∨
      written.name ∈ ownNames := by
  cases call with
  | ofType type =>
    rw [List.mem_singleton.mp member]
    exact .inl ⟨⟨type, rfl⟩, rfl⟩
  | apply shortcut value =>
    rw [List.mem_singleton.mp member]
    exact .inr (.inl ⟨shortcut, rfl⟩)
  | shortcut name value =>
    cases named : Shortcut.named? name with
    | ok known =>
      simp only [writes, named, List.mem_singleton] at member
      exact .inr (.inl ⟨known, member ▸ rfl⟩)
    | error failure => simp [writes, named] at member
  | plain filter =>
    cases checked : filter.strict with
    | ok clause =>
      simp only [writes, checked, List.mem_singleton] at member
      simp [member, Write.name, ownNames]
    | error failure => simp [writes, checked] at member
  | metas input =>
    rcases List.mem_cons.mp member with rfl | member
    · simp [Write.name, ownNames]
    · simp [Compound.name_of_mem_relationWrites member, ownNames]
  | taxonomies input =>
    rcases List.mem_cons.mp member with rfl | member
    · simp [Write.name, ownNames]
    · simp [Compound.name_of_mem_relationWrites member, ownNames]
  | orderByIn column direction =>
    rcases List.mem_cons.mp member with rfl | member
    · simp [Write.name, ownNames]
    · simp [List.mem_singleton.mp member, Write.name, ownNames]
  | configure _ | configureWith _ | withStore _ | formatWith _ => cases member
  | plains _ | limit _ | offset _ | order _ | orderBy _ =>
    simp [List.mem_singleton.mp member, Write.name, ownNames]

theorem Terminal.name_of_mem_writes {terminal : Terminal} {written : Write}
    (member : written ∈ terminal.writes) :
    written.name = Vocabulary.postId ∨ written.name = Vocabulary.pageSize := by
  cases terminal with
  | find id =>
    rcases List.mem_cons.mp member with rfl | member
    · exact .inl rfl
    · exact .inr (List.mem_singleton.mp member ▸ rfl)
  | first | all => exact .inr (List.mem_singleton.mp member ▸ rfl)
  | get | count | pluck _ | aggregate _ => cases member

end ContentQuery
