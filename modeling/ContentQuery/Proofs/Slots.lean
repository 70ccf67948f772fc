import ContentQuery.Proofs.PlainClauses

namespace ContentQuery
namespace OrderedMap
variable {α : Type}

def behindSlot (name : String) : List (String × α) → List (String × α)
  | [] => []
  | (key, _) :: rest => if key = name then rest else behindSlot name rest

def behind (m : OrderedMap α) (name : String) : List (String × α) := behindSlot name m.entries

theorem exists_slot {name : String} {value : α} {entries : List (String × α)}
    (held : entries.lookup name = some value) :
    ∃ before, entries = before ++ (name, value) :: behindSlot name entries := by
  induction entries with
  | nil => cases held
  | cons entry rest ih =>
    obtain ⟨key, found⟩ := entry
    by_cases here : key = name
    · subst here
      rw [List.lookup_cons_self] at held
      cases held
      exact ⟨[], by simp [behindSlot]⟩
    · rw [lookup_cons_of_ne (fun same => here same.symm)] at held
      obtain ⟨before, split⟩ := ih held
      refine ⟨(key, found) :: before, ?_⟩
      rw [behindSlot, if_neg here, List.cons_append, ← split]

theorem behindSlot_append (name : String) (first second : List (String × α)) :
    behindSlot name (first ++ second) =
      if name ∈ first.map Prod.fst then behindSlot name first ++ second
      else behindSlot name second := by
  induction first with
  | nil => rfl
  | cons entry rest ih =>
    obtain ⟨key, value⟩ := entry
    by_cases here : key = name
    · simp [behindSlot, here]
    · have away : name ≠ key := fun same => here same.symm
      simp only [List.cons_append, behindSlot, if_neg here, ih, List.map_cons, List.mem_cons, away,
        false_or]

theorem behindSlot_sublist (name : String) (entries : List (String × α)) :
    (behindSlot name entries).Sublist entries := by
  induction entries with
  | nil => exact List.Sublist.refl _
  | cons entry rest ih =>
    obtain ⟨key, value⟩ := entry
    rw [behindSlot]
    split
    · exact (List.Sublist.refl rest).cons _
    · exact ih.cons _

theorem not_mem_behindSlot {name : String} {entries : List (String × α)}
    (distinct : (entries.map Prod.fst).Nodup) : name ∉ (behindSlot name entries).map Prod.fst := by
  induction entries with
  | nil => exact List.not_mem_nil
  | cons entry rest ih =>
    obtain ⟨key, value⟩ := entry
    rw [List.map_cons, List.nodup_cons] at distinct
    rw [behindSlot]
    split
    · rename_i here
      exact here ▸ distinct.1
    · exact ih distinct.2

theorem behindSlot_upsert_self (name : String) (change : Option α → α)
    (entries : List (String × α)) :
    behindSlot name (upsert name change entries) = behindSlot name entries := by
  induction entries with
  | nil => simp [upsert, behindSlot]
  | cons entry rest ih =>
    obtain ⟨key, value⟩ := entry
    by_cases here : key = name
    · simp [upsert, behindSlot, here]
    · simp [upsert, behindSlot, here, ih]

theorem behindSlot_upsert_of_ne {name slot : String} (apart : name ≠ slot)
    (change : Option α → α) (entries : List (String × α)) :
    behindSlot slot (upsert name change entries) = behindSlot slot entries ∨
      behindSlot slot (upsert name change entries) =
        upsert name change (behindSlot slot entries) := by
  induction entries with
  | nil => exact .inl (by simp [upsert, behindSlot, apart])
  | cons entry rest ih =>
    obtain ⟨key, value⟩ := entry
    by_cases written : key = name
    · subst written
      exact .inl (by simp [upsert, behindSlot, apart])
    · by_cases here : key = slot
      · exact .inr (by simp only [upsert, if_neg written, behindSlot, if_pos here])
      · simpa [upsert, behindSlot, written, here] using ih

end OrderedMap

-- The name was first written when the slot was already taken.
def Write.Trails (writes : List Write) (slot name : String) : Prop :=
  ∃ first later, writes = first ++ later ∧ slot ∈ first.map Write.name ∧
    name ∉ first.map Write.name ∧ name ∈ later.map Write.name

theorem Write.not_trails_self (writes : List Write) (slot : String) :
    ¬ Write.Trails writes slot slot := by
  intro given
  obtain ⟨_, _, _, taken, fresh, _⟩ := given
  exact fresh taken

namespace Bindings

theorem mem_keys_writeAll_empty {writes : List Write} {name : String} :
    name ∈ (writeAll .empty writes).keys ↔ name ∈ writes.map Write.name := by
  rw [mem_keys_writeAll, List.mem_map]
  constructor
  · intro given
    rcases given with old | written
    · cases old
    · exact written
  · exact .inr

theorem exists_slots_append (writes more : List Write) :
    ∃ front back, (writeAll .empty (writes ++ more)).entries = front ++ back ∧
      front.map Prod.fst = (writeAll .empty writes).keys := by
  obtain ⟨names, split⟩ := keys_prefix (writeAll .empty writes) more
  rw [← writeAll_append] at split
  obtain ⟨front, back, entries, keys, _⟩ := List.map_eq_append_iff.mp split.symm
  exact ⟨front, back, entries, keys⟩

theorem mem_behind_of_trails {writes : List Write} {slot name : String}
    (trails : Write.Trails writes slot name) :
    name ∈ ((writeAll .empty writes).behind slot).map Prod.fst := by
  obtain ⟨first, later, rfl, taken, fresh, written⟩ := trails
  obtain ⟨front, back, entries, keys⟩ := exists_slots_append first later
  have inFront : slot ∈ front.map Prod.fst := keys ▸ mem_keys_writeAll_empty.mpr taken
  have notInFront : name ∉ front.map Prod.fst := fun member =>
    fresh (mem_keys_writeAll_empty.mp (keys ▸ member))
  have somewhere : name ∈ (front ++ back).map Prod.fst := by
    rw [← entries]
    apply mem_keys_writeAll_empty.mpr
    rw [List.map_append]
    exact List.mem_append_right _ written
  rw [List.map_append] at somewhere
  rw [OrderedMap.behind, entries, OrderedMap.behindSlot_append, if_pos inFront, List.map_append]
  exact List.mem_append_right _ ((List.mem_append.mp somewhere).resolve_left notInFront)

theorem trails_of_mem_behind {writes : List Write} {slot name : String}
    (member : name ∈ ((writeAll .empty writes).behind slot).map Prod.fst) :
    Write.Trails writes slot name := by
  have distinct := @nodup_keys_writeAll .empty List.nodup_nil writes
  have held : name ∈ writes.map Write.name := mem_keys_writeAll_empty.mp
    (((OrderedMap.behindSlot_sublist slot _).map Prod.fst).mem member)
  obtain ⟨names, others, split, fresh⟩ := List.eq_append_cons_of_mem held
  obtain ⟨first, later, rfl, rfl, back⟩ := List.map_eq_append_iff.mp split
  refine ⟨first, later, rfl, ?_, fresh, back ▸ List.mem_cons_self⟩
  -- With the slot not yet taken, the name would stand ahead of it as well.
  apply Classical.not_not.mp
  intro free
  obtain ⟨written, rest, rfl, rfl, _⟩ := List.map_eq_cons_iff.mp back
  have away : slot ≠ written.name := by
    rintro rfl
    exact OrderedMap.not_mem_behindSlot distinct member
  obtain ⟨front, behind, entries, keys⟩ := exists_slots_append (first ++ [written]) rest
  rw [List.append_assoc, List.singleton_append] at entries
  have ahead : written.name ∈ front.map Prod.fst := by
    rw [keys, mem_keys_writeAll_empty, List.map_append]
    exact List.mem_append_right _ List.mem_cons_self
  have slotless : slot ∉ front.map Prod.fst := by
    rw [keys, mem_keys_writeAll_empty, List.map_append, List.mem_append, not_or]
    exact ⟨free, fun single => away (List.mem_singleton.mp single)⟩
  rw [OrderedMap.behind, entries, OrderedMap.behindSlot_append, if_neg slotless] at member
  rw [OrderedMap.keys, entries, List.map_append, List.nodup_append] at distinct
  exact distinct.2.2 _ ahead _ (((OrderedMap.behindSlot_sublist slot _).map Prod.fst).mem member) rfl

theorem mem_behind_iff_trails {writes : List Write} {slot name : String} :
    name ∈ ((writeAll .empty writes).behind slot).map Prod.fst ↔ Write.Trails writes slot name :=
  ⟨trails_of_mem_behind, mem_behind_of_trails⟩

end Bindings

namespace Compilation

def overlay (argument : String) (entries : List (String × Binding)) : Option Argument :=
  entries.foldl (fun held entry => update argument entry.1 entry.2 held) none

-- A value that is held counts only where nothing else is: no binding looks at
-- it.
theorem update_or_value (argument name : String) (binding : Binding) (held : Option Argument)
    (value : Json) :
    update argument name binding (held.or (some (.value value))) =
      (update argument name binding held).or (some (.value value)) := by
  have list : heldList (held.or (some (.value value))) = heldList held := by
    cases held <;> rfl
  cases binding with
  | plain clauses =>
    simp only [update]
    split
    · exact (Option.or_assoc).symm
    · rfl
  | value written =>
    simp only [update]
    split <;> split <;> rfl
  | metas nodes | taxonomies nodes =>
    simp only [update, grown, list]
    split <;> rfl
  | relations relations =>
    have same : related (held.or (some (.value value))) = related held := by
      funext relation
      simp only [related, list]
    simp only [update, same]
    split
    · exact (Option.or_assoc).symm
    · rfl

theorem foldl_update_or_value (argument : String) (entries : List (String × Binding))
    (held : Option Argument) (value : Json) :
    entries.foldl (fun held entry => update argument entry.1 entry.2 held)
        (held.or (some (.value value))) =
      (entries.foldl (fun held entry => update argument entry.1 entry.2 held) held).or
        (some (.value value)) := by
  induction entries generalizing held with
  | nil => rfl
  | cons entry rest ih => rw [List.foldl_cons, List.foldl_cons, update_or_value, ih]

-- A binding that settles an argument has the last word unless one behind its
-- slot writes the argument too. What stands ahead of it is lost.
theorem get?_compile_of_settled {lookup : Lookup} {bindings : Bindings} {name argument : String}
    {binding : Binding} {value : Json} (bound : bindings.get? name = some binding)
    (settled : ∀ held, update argument name binding held = some (.value value)) :
    (compile lookup bindings).get? argument =
      (overlay argument (bindings.behind name)).or (some (.value value)) := by
  obtain ⟨before, split⟩ := OrderedMap.exists_slot bound
  rw [get?_compile, split, List.foldl_append, List.foldl_cons, settled]
  exact foldl_update_or_value argument (bindings.behind name) none value

theorem update_some_ne_none (argument name : String) (binding : Binding) (held : Argument) :
    update argument name binding (some held) ≠ none := by
  cases binding with
  | plain clauses =>
    simp only [update]
    split <;> simp
  | value written =>
    simp only [update]
    split <;> split <;> simp
  | metas nodes | taxonomies nodes | relations relations =>
    simp only [update]
    split <;> simp

theorem foldl_update_some_ne_none (argument : String) (entries : List (String × Binding))
    (held : Argument) :
    entries.foldl (fun held entry => update argument entry.1 entry.2 held) (some held) ≠ none := by
  induction entries generalizing held with
  | nil => exact Option.some_ne_none held
  | cons entry rest ih =>
    obtain ⟨next, written⟩ := Option.ne_none_iff_exists'.mp
      (update_some_ne_none argument entry.1 entry.2 held)
    rw [List.foldl_cons, written]
    exact ih next

theorem overlay_eq_none_iff {argument : String} {entries : List (String × Binding)} :
    overlay argument entries = none ↔
      ∀ entry ∈ entries, update argument entry.1 entry.2 none = none := by
  induction entries with
  | nil => simp [overlay]
  | cons entry rest ih =>
    rw [List.forall_mem_cons, ← ih, overlay, List.foldl_cons]
    cases written : update argument entry.1 entry.2 none with
    | none => exact (and_iff_right rfl).symm
    | some next =>
      constructor
      · intro bare
        exact absurd bare (foldl_update_some_ne_none argument rest next)
      · intro given
        cases given.1

section Silent
variable {argument name : String}
  (silent : ∀ binding held, update argument name binding held = held)
include silent

theorem foldl_upsert_of_silent (change : Option Binding → Binding)
    (entries : List (String × Binding)) (held : Option Argument) :
    (OrderedMap.upsert name change entries).foldl
        (fun held entry => update argument entry.1 entry.2 held) held =
      entries.foldl (fun held entry => update argument entry.1 entry.2 held) held := by
  induction entries generalizing held with
  | nil => exact silent _ _
  | cons entry rest ih =>
    obtain ⟨key, binding⟩ := entry
    by_cases here : key = name
    · subst here
      simp only [OrderedMap.upsert, if_true, List.foldl_cons, silent]
    · simp only [OrderedMap.upsert, if_neg here, List.foldl_cons, ih]

theorem overlay_behind_write_of_silent (bindings : Bindings) {written : Write}
    (own : written.name = name) {slot : String} (apart : name ≠ slot) :
    overlay argument ((bindings.write written).behind slot) =
      overlay argument (bindings.behind slot) := by
  subst own
  unfold Bindings.write OrderedMap.behind OrderedMap.alter
  rcases OrderedMap.behindSlot_upsert_of_ne apart written.result bindings.entries with same | more
  · rw [same]
  · rw [more]
    exact foldl_upsert_of_silent silent _ _ _

end Silent

theorem overlay_behind_write_self (argument : String) (bindings : Bindings) (written : Write) :
    overlay argument ((bindings.write written).behind written.name) =
      overlay argument (bindings.behind written.name) := by
  unfold Bindings.write OrderedMap.behind OrderedMap.alter
  rw [OrderedMap.behindSlot_upsert_self]

end Compilation
end ContentQuery
