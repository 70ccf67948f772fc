import ContentQuery.Proofs.Gathering

namespace ContentQuery
namespace Step

-- The steps ahead of the first plain call. The slots they take come before the
-- slot of the plain clauses.
def early (steps : List Step) : List Step := steps.takeWhile fun step => step.clauses?.isNone

def plainClauses (steps : List Step) : List PlainClause := (steps.filterMap Step.clauses?).flatten

def gather (steps : List Step) : Bindings := Bindings.writeAll .empty (steps.flatMap Step.writes)

theorem gather_append (first second : List Step) :
    gather (first ++ second) = (gather first).writeAll (second.flatMap Step.writes) := by
  rw [gather, List.flatMap_append, Bindings.writeAll_append]
  rfl

theorem nodup_keys_gather (steps : List Step) : (gather steps).keys.Nodup :=
  @Bindings.nodup_keys_writeAll .empty List.nodup_nil _

theorem mem_keys_gather {steps : List Step} {name : String} :
    name ∈ (gather steps).keys ↔
      ∃ step ∈ steps, ∃ written ∈ step.writes, written.name = name := by
  rw [gather, Bindings.mem_keys_writeAll]
  constructor
  · intro given
    rcases given with old | ⟨written, member, same⟩
    · cases old
    · obtain ⟨step, made, member⟩ := List.mem_flatMap.mp member
      exact ⟨step, made, written, member, same⟩
  · intro given
    obtain ⟨step, made, written, member, same⟩ := given
    exact .inr ⟨written, List.mem_flatMap.mpr ⟨step, made, member⟩, same⟩

theorem exists_first_plain {steps : List Step} (filled : plainClauses steps ≠ []) :
    ∃ first later clauses, steps = early steps ++ first :: later ∧
      first.clauses? = some clauses := by
  induction steps with
  | nil => exact absurd rfl filled
  | cons step rest ih =>
    cases own : step.clauses? with
    | some clauses => exact ⟨step, rest, clauses, by simp [early, own], own⟩
    | none =>
      have others : plainClauses rest ≠ [] := by
        simpa [plainClauses, own] using filled
      obtain ⟨first, later, clauses, split, plain⟩ := ih others
      refine ⟨first, later, clauses, ?_, plain⟩
      have ahead : early (step :: rest) = step :: early rest := by
        simp [early, own]
      rw [ahead, List.cons_append, ← split]

theorem early_unplain {steps : List Step} : ∀ step ∈ early steps, step.clauses? = none := by
  intro step member
  have kept := List.all_eq_true.mp (List.all_takeWhile (p := fun step : Step => step.clauses?.isNone))
    step member
  exact Option.isNone_iff_eq_none.mp kept

theorem gather_split {steps : List Step} (filled : plainClauses steps ≠ []) :
    ∃ before binding after,
      (gather steps).entries = before ++ (Vocabulary.plainClauses, binding) :: after ∧
        before.map Prod.fst = (gather (early steps)).keys := by
  obtain ⟨first, later, clauses, split, plain⟩ := exists_first_plain filled
  have fresh : Vocabulary.plainClauses ∉ (gather (early steps)).keys := by
    rw [mem_keys_gather]
    intro given
    obtain ⟨step, member, written, made, same⟩ := given
    exact unwritten_of_unplain (early_unplain step member) written made same
  have taken : (gather (early steps ++ [first])).keys =
      (gather (early steps)).keys ++ [Vocabulary.plainClauses] := by
    rw [gather_append, List.flatMap_singleton, writes_of_plain plain]
    change (Bindings.write _ _).keys = _
    rw [Bindings.keys_write]
    exact if_neg fresh
  have whole : gather steps =
      (gather (early steps ++ [first])).writeAll (later.flatMap Step.writes) := by
    rw [← gather_append, List.append_assoc, List.singleton_append, ← split]
  have ahead := Bindings.keys_prefix (gather (early steps ++ [first])) (later.flatMap Step.writes)
  rw [← whole, taken] at ahead
  obtain ⟨rest, keys⟩ := ahead
  rw [List.append_assoc, OrderedMap.keys] at keys
  obtain ⟨before, others, entries, names, tail⟩ := List.map_eq_append_iff.mp keys.symm
  obtain ⟨entry, after, rfl, name, _⟩ := List.map_eq_cons_iff.mp tail
  refine ⟨before, entry.2, after, ?_, names⟩
  rw [entries, ← name]

end Step

namespace Compound
open Compilation

def calls (compound : Compound) (steps : List Step) : List (List ClauseEntry) :=
  steps.filterMap compound.entries?

def recorded (compound : Compound) (steps : List Step) : List (Nat × Relation) :=
  steps.flatMap compound.records

def relation? (compound : Compound) (steps : List Step) : Option Relation :=
  (LevelRelations.ofList (compound.recorded steps)).lowest

-- What the calls of the kind alone come to.
def gathered (compound : Compound) (steps : List Step) : Option Argument :=
  merged none (extended none (compound.calls steps)) (compound.relation? steps)

-- A plain value under the name of the argument replaces what the slots before
-- it wrote and gives way to what the slots after it write.
def outcome (compound : Compound) (steps : List Step) : Option Argument :=
  match valueAt compound.argument (Step.plainClauses steps) with
  | none => compound.gathered steps
  | some value =>
    merged (some (.value value))
      (if compound.calls (Step.early steps) = [] then extended none (compound.calls steps) else none)
      (if compound.recorded (Step.early steps) = [] then compound.relation? steps else none)

theorem slot_gather (compound : Compound) (steps : List Step) :
    compound.slot (Step.gather steps) = extended none (compound.calls steps) :=
  compound.slot_steps .empty steps

theorem lowest_gather (compound : Compound) (steps : List Step) :
    (((Step.gather steps).get? compound.relationName).bind Binding.relations?).bind
      LevelRelations.lowest = compound.relation? steps := by
  have held : compound.levels (Step.gather steps) = .ofList (compound.recorded steps) :=
    compound.levels_steps .empty steps
  rw [relation?, ← held, levels]
  cases ((Step.gather steps).get? compound.relationName).bind Binding.relations? <;> rfl

theorem plainClauses_gather (steps : List Step) :
    (Step.gather steps).plainClauses = Step.plainClauses steps :=
  Bindings.plainClauses_steps .empty steps

theorem clauseName_mem_keys {compound : Compound} {steps : List Step} :
    compound.clauseName ∈ (Step.gather steps).keys ↔ compound.calls steps ≠ [] := by
  rw [Step.mem_keys_gather, calls, ne_eq, List.filterMap_eq_nil_iff]
  constructor
  · intro given silent
    obtain ⟨step, made, written, member, same⟩ := given
    cases compound.effect step with
    | own binding entries holds own => exact absurd (silent step made) (by simp [own])
    | apart absent unwritten => exact (unwritten written member).1 same
  · intro called
    obtain ⟨step, called⟩ := Classical.not_forall.mp called
    obtain ⟨made, called⟩ := Classical.not_imp.mp called
    cases compound.effect step with
    | own binding entries holds own written =>
      refine ⟨step, made, .append compound.clauseName binding, ?_, rfl⟩
      rw [written]
      exact List.mem_cons_self
    | apart absent => exact absurd absent called

theorem relationName_mem_keys {compound : Compound} {steps : List Step} :
    compound.relationName ∈ (Step.gather steps).keys ↔ compound.recorded steps ≠ [] := by
  rw [Step.mem_keys_gather, recorded, ne_eq, List.flatMap_eq_nil_iff]
  constructor
  · intro given silent
    obtain ⟨step, made, one, member, same⟩ := given
    cases compound.effect step with
    | own binding entries holds own written =>
      rw [written, silent step made] at member
      rcases List.mem_cons.mp member with rfl | member
      · exact compound.names_apart.1 same
      · cases member
    | apart absent unwritten => exact (unwritten one member).2 same
  · intro spoken
    obtain ⟨step, spoken⟩ := Classical.not_forall.mp spoken
    obtain ⟨made, spoken⟩ := Classical.not_imp.mp spoken
    cases compound.effect step with
    | own binding entries holds own written =>
      have filled : ¬ (LevelRelations.ofList (compound.records step)).entries.isEmpty = true := by
        rw [List.isEmpty_iff, LevelRelations.entries_ofList_eq_nil]
        exact spoken
      refine ⟨step, made, .relate compound.relationName (.ofList (compound.records step)), ?_, rfl⟩
      rw [written, Call.relationWrites, if_neg filled]
      exact List.mem_cons_of_mem _ List.mem_cons_self
    | apart absent => exact absurd (records_of_entries?_none absent) spoken

theorem lookup_after {entries before after : List (String × Binding)} {binding : Binding}
    {name : String} (split : entries = before ++ (Vocabulary.plainClauses, binding) :: after)
    (distinct : (entries.map Prod.fst).Nodup) (apart : name ≠ Vocabulary.plainClauses) :
    after.lookup name = if name ∈ before.map Prod.fst then none else entries.lookup name := by
  subst split
  split
  · rename_i taken
    rw [OrderedMap.lookup_eq_none_iff_not_mem]
    intro again
    rw [List.map_append, List.nodup_append] at distinct
    exact distinct.2.2 name taken name (List.mem_cons_of_mem _ again) rfl
  · rename_i free
    rw [List.lookup_append, OrderedMap.lookup_eq_none_iff_not_mem.mpr free, Option.none_or,
      OrderedMap.lookup_cons_of_ne apart]

theorem plain_of_mem {steps : List Step} {binding : Binding}
    (member : (Vocabulary.plainClauses, binding) ∈ (Step.gather steps).entries) :
    binding.plain?.getD [] = Step.plainClauses steps := by
  have held : (Step.gather steps).get? Vocabulary.plainClauses = some binding :=
    OrderedMap.lookup_of_mem (Step.nodup_keys_gather steps) member
  rw [← plainClauses_gather, Bindings.plainClauses, held]
  rfl

theorem foldl_split (compound : Compound) {before after : List (String × Binding)}
    {binding : Binding} {value : Json}
    (distinct : ((before ++ (Vocabulary.plainClauses, binding) :: after).map Prod.fst).Nodup)
    (named : valueAt compound.argument (binding.plain?.getD []) = some value) :
    (before ++ (Vocabulary.plainClauses, binding) :: after).foldl
      (fun held entry => update compound.argument entry.1 entry.2 held) none =
        merged (some (.value value)) ((after.lookup compound.clauseName).bind compound.gathered?)
          (((after.lookup compound.relationName).bind Binding.relations?).bind
            LevelRelations.lowest) := by
  rw [List.map_append, List.nodup_append, List.map_cons, List.nodup_cons] at distinct
  obtain ⟨_, ⟨fresh, distinctAfter⟩, _⟩ := distinct
  rw [List.foldl_append, List.foldl_cons, update_plainClauses, named]
  apply foldl_update compound distinctAfter
  intro entry member same
  exact absurd (List.mem_map.mpr ⟨entry, member, same⟩) fresh

theorem bind_unless {β γ : Type} {taken free : Prop} [Decidable taken] [Decidable free]
    (apart : taken ↔ ¬ free) (found : Option β) (read : β → Option γ) :
    (if taken then none else found).bind read = if free then found.bind read else none := by
  by_cases here : taken
  · rw [if_pos here, if_neg (apart.mp here)]
    rfl
  · have unused : free := Classical.not_not.mp fun shut => here (apart.mpr shut)
    rw [if_neg here, if_pos unused]

theorem foldl_gather (compound : Compound) (steps : List Step) :
    (Step.gather steps).entries.foldl
      (fun held entry => update compound.argument entry.1 entry.2 held) none =
        compound.outcome steps := by
  have distinct : ((Step.gather steps).entries.map Prod.fst).Nodup := Step.nodup_keys_gather steps
  obtain ⟨_, offClauses, offRelations⟩ := compound.names_apart
  unfold outcome
  cases named : valueAt compound.argument (Step.plainClauses steps) with
  | none =>
    have quiet : ∀ entry ∈ (Step.gather steps).entries, entry.1 = Vocabulary.plainClauses →
        ∀ held, update compound.argument Vocabulary.plainClauses entry.2 held = held := by
      intro entry member same held
      obtain ⟨name, binding⟩ := entry
      subst same
      rw [update_plainClauses, plain_of_mem member, named]
      rfl
    rw [foldl_update compound distinct quiet, gathered, ← slot_gather, ← lowest_gather]
    rfl
  | some value =>
    have filled : Step.plainClauses steps ≠ [] := by
      intro unfilled
      rw [unfilled] at named
      cases named
    obtain ⟨before, binding, after, split, names⟩ := Step.gather_split filled
    have member : (Vocabulary.plainClauses, binding) ∈ (Step.gather steps).entries := by
      rw [split]
      exact List.mem_append_right _ List.mem_cons_self
    have same : valueAt compound.argument (binding.plain?.getD []) = some value := by
      rw [plain_of_mem member, named]
    have clauses := lookup_after split distinct offClauses
    have relations := lookup_after split distinct offRelations
    rw [split] at distinct
    rw [split, compound.foldl_split distinct same, clauses, relations, names,
      ← slot_gather, ← lowest_gather]
    congr 1
    · exact bind_unless clauseName_mem_keys _ _
    · rw [Option.bind_assoc, Option.bind_assoc]
      exact bind_unless relationName_mem_keys _ _

theorem get?_run (compound : Compound) {shared : Settings} {steps : List Step} {done : Session}
    (ran : Session.run ⟨shared, .fresh⟩ steps = .ok done) :
    done.arguments.get? compound.argument = compound.outcome steps := by
  have held : done.query.bindings = Step.gather steps := Session.run_bindings ran
  rw [Session.arguments, Query.arguments, get?_compile, start_argument, held, foldl_gather]

end Compound
end ContentQuery
