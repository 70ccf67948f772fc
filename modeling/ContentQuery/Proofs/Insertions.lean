import ContentQuery.OrderedMap

namespace ContentQuery.OrderedMap
variable {α β : Type}

theorem upsert_upsert (name : String) (first last : Option α → α) (entries : List (String × α)) :
    upsert name last (upsert name first entries) =
      upsert name (fun held => last (some (first held))) entries := by
  induction entries with
  | nil => simp [upsert]
  | cons entry rest ih =>
    obtain ⟨key, value⟩ := entry
    by_cases here : key = name
    · simp [upsert, here]
    · simp only [upsert, if_neg here, ih]

theorem upsert_append_of_not_mem {name : String} {first : List (String × α)}
    (fresh : name ∉ first.map Prod.fst) (change : Option α → α) (second : List (String × α)) :
    upsert name change (first ++ second) = first ++ upsert name change second := by
  induction first with
  | nil => rfl
  | cons entry rest ih =>
    obtain ⟨key, value⟩ := entry
    rw [List.map_cons, List.mem_cons, not_or] at fresh
    have away : key ≠ name := fun same => fresh.1 same.symm
    simp only [List.cons_append, upsert, if_neg away, ih fresh.2]

-- Writes to two names may change places as long as one of the names has a slot.
theorem upsert_comm_of_mem {name other : String} (apart : name ≠ other)
    (change renew : Option α → α) {entries : List (String × α)} (taken : name ∈ entries.map Prod.fst) :
    upsert other renew (upsert name change entries) =
      upsert name change (upsert other renew entries) := by
  induction entries with
  | nil => cases taken
  | cons entry rest ih =>
    obtain ⟨key, value⟩ := entry
    by_cases here : key = name
    · subst here
      simp only [upsert, if_true, if_neg apart]
    · have later : name ∈ rest.map Prod.fst :=
        (List.mem_cons.mp taken).resolve_left fun same => here same.symm
      by_cases there : key = other
      · subst there
        simp only [upsert, if_neg here, if_true]
      · simp only [upsert, if_neg here, if_neg there, ih later]

theorem mem_keys_insert {m : OrderedMap α} {name other : String} {value : α} :
    other ∈ (m.insert name value).keys ↔ other ∈ m.keys ∨ other = name := by
  rw [insert, keys_alter]
  split
  · rename_i taken
    constructor
    · exact .inl
    · intro given
      rcases given with old | rfl
      · exact old
      · exact taken
  · rw [List.mem_append, List.mem_singleton]

theorem mem_keys_iff {m : OrderedMap α} {name : String} :
    name ∈ m.keys ↔ m.get? name ≠ none := by
  rw [ne_eq, get?, lookup_eq_none_iff_not_mem, Classical.not_not]
  rfl

theorem alter_alter (m : OrderedMap α) (name : String) (first last : Option α → α) :
    (m.alter name first).alter name last = m.alter name fun held => last (some (first held)) :=
  congrArg mk (upsert_upsert name first last m.entries)

theorem insert_insert_self (m : OrderedMap α) (name : String) (first last : α) :
    (m.insert name first).insert name last = m.insert name last :=
  m.alter_alter name _ _

theorem alter_alter_comm (m : OrderedMap α) {name other : String} (apart : name ≠ other)
    (first last change : Option α → α) :
    ((m.alter name first).alter other change).alter name last =
      ((m.alter name first).alter name last).alter other change := by
  have taken : name ∈ (m.alter name first).keys := by
    rw [keys_alter]
    split
    · assumption
    · exact List.mem_append_right _ List.mem_cons_self
  exact congrArg mk (upsert_comm_of_mem apart last change taken).symm

theorem insert_comm_of_mem {m : OrderedMap α} {name other : String} (apart : name ≠ other)
    (taken : name ∈ m.keys ∨ other ∈ m.keys) (value written : α) :
    (m.insert name value).insert other written = (m.insert other written).insert name value := by
  rcases taken with taken | taken
  · exact congrArg mk (upsert_comm_of_mem apart _ _ taken)
  · exact (congrArg mk (upsert_comm_of_mem apart.symm _ _ taken)).symm

section Histories
variable {ω : Type} (name : ω → String) (result : ω → Option α → α)

-- What a list of writes makes of a map. Each goes to one name and sees what that
-- name holds.
def alterAll (m : OrderedMap α) (writes : List ω) : OrderedMap α :=
  writes.foldl (fun m written => m.alter (name written) (result written)) m

theorem get?_alterAll (m : OrderedMap α) (writes : List ω) (key : String) :
    (m.alterAll name result writes).get? key =
      (writes.filter fun written => name written == key).foldl
        (fun held written => some (result written held)) (m.get? key) := by
  induction writes generalizing m with
  | nil => rfl
  | cons written rest ih =>
    refine (ih (m.alter (name written) (result written))).trans ?_
    by_cases same : name written = key
    · subst same
      simp [get?_alter_self]
    · rw [get?_alter_of_ne m fun e : key = name written => same e.symm]
      simp [same]

theorem keys_alterAll (m : OrderedMap α) (writes : List ω) :
    (m.alterAll name result writes).keys =
      m.keys ++ ((writes.map name).removeAll m.keys).eraseDups := by
  induction writes generalizing m with
  | nil =>
    rw [List.map_nil, List.nil_removeAll, List.eraseDups_nil, List.append_nil]
    rfl
  | cons written rest ih =>
    refine (ih (m.alter (name written) (result written))).trans ?_
    rw [keys_alter, List.map_cons]
    by_cases taken : name written ∈ m.keys
    · rw [if_pos taken, List.cons_removeAll, if_neg (by simpa using taken)]
    · have later : (rest.map name).removeAll (m.keys ++ [name written]) =
          ((rest.map name).removeAll m.keys).filter fun other => !other == name written := by
        unfold List.removeAll
        rw [List.filter_filter]
        congr 1
        funext other
        by_cases same : other = name written <;> simp [same]
      rw [if_neg taken, List.cons_removeAll, if_pos (by simpa using taken), later,
        List.eraseDups_cons, List.append_assoc, List.singleton_append]

theorem keys_alterAll_empty (writes : List ω) :
    (alterAll name result (.empty : OrderedMap α) writes).keys = (writes.map name).eraseDups := by
  rw [keys_alterAll]
  exact congrArg List.eraseDups List.removeAll_nil

theorem mem_keys_alterAll {m : OrderedMap α} {writes : List ω} {key : String} :
    key ∈ (m.alterAll name result writes).keys ↔ key ∈ m.keys ∨ key ∈ writes.map name := by
  rw [keys_alterAll, List.mem_append, List.mem_eraseDups]
  unfold List.removeAll
  by_cases held : key ∈ m.keys <;> simp [held]

theorem nodup_keys_empty : (empty : OrderedMap α).keys.Nodup := List.nodup_nil

theorem nodup_keys_alterAll {m : OrderedMap α} (distinct : m.keys.Nodup) (writes : List ω) :
    (m.alterAll name result writes).keys.Nodup := by
  induction writes generalizing m with
  | nil => exact distinct
  | cons written rest ih => exact ih (nodup_keys_alter distinct (name written) (result written))

end Histories

theorem insertMany_append (m : OrderedMap α) (first second : List (String × α)) :
    m.insertMany (first ++ second) = (m.insertMany first).insertMany second :=
  List.foldl_append

theorem mem_keys_insertMany {m : OrderedMap α} {more : List (String × α)} {name : String} :
    name ∈ (m.insertMany more).keys ↔ name ∈ m.keys ∨ name ∈ more.map Prod.fst :=
  mem_keys_alterAll Prod.fst fun entry _ => entry.2

theorem get?_insertMany (m : OrderedMap α) (more : List (String × α)) (name : String) :
    (m.insertMany more).get? name = (more.reverse.lookup name).or (m.get? name) := by
  induction more generalizing m with
  | nil => rfl
  | cons entry rest ih =>
    obtain ⟨key, value⟩ := entry
    refine (ih (m.insert key value)).trans ?_
    rw [List.reverse_cons, List.lookup_append, Option.or_assoc]
    congr 1
    by_cases here : name = key
    · subst here
      rw [get?_insert_self, List.lookup_cons_self, Option.some_or]
    · rw [get?_insert_of_ne m here, lookup_cons_of_ne here]
      rfl

theorem lookup_reverse_eq_none_iff {entries : List (String × α)} {name : String} :
    entries.reverse.lookup name = none ↔ name ∉ entries.map Prod.fst := by
  rw [lookup_eq_none_iff_not_mem, List.map_reverse, List.mem_reverse]

theorem lookup_reverse {entries : List (String × α)} (distinct : (entries.map Prod.fst).Nodup)
    (name : String) : entries.reverse.lookup name = entries.lookup name := by
  cases held : entries.lookup name with
  | none => rwa [lookup_reverse_eq_none_iff, ← lookup_eq_none_iff_not_mem]
  | some value =>
    obtain ⟨before, after, split, _⟩ := List.lookup_eq_some_iff.mp held
    have reversed : (entries.reverse.map Prod.fst).Nodup := by
      rw [List.map_reverse]
      exact (List.reverse_perm _).nodup_iff.mpr distinct
    apply lookup_of_mem reversed
    simp [split]

theorem nodup_keys_insertMany {m : OrderedMap α} (distinct : m.keys.Nodup)
    (more : List (String × α)) : (m.insertMany more).keys.Nodup :=
  nodup_keys_alterAll Prod.fst (fun entry _ => entry.2) distinct more

theorem get?_insertMany_congr {m other : OrderedMap α} {more : List (String × α)} {name : String}
    (agreed : name ∈ more.map Prod.fst ∨ m.get? name = other.get? name) :
    (m.insertMany more).get? name = (other.insertMany more).get? name := by
  rw [get?_insertMany, get?_insertMany]
  rcases agreed with written | same
  · cases last : more.reverse.lookup name with
    | none => exact absurd written (lookup_reverse_eq_none_iff.mp last)
    | some value => rfl
  · rw [same]

theorem get?_insertMany_of_not_mem {more : List (String × α)} {name : String}
    (unwritten : name ∉ more.map Prod.fst) (m : OrderedMap α) :
    (m.insertMany more).get? name = m.get? name := by
  rw [get?_insertMany, lookup_reverse_eq_none_iff.mpr unwritten, Option.none_or]

theorem entries_insertMany_of_fresh {m : OrderedMap α} {more : List (String × α)}
    (fresh : ∀ name ∈ more.map Prod.fst, name ∉ m.keys) :
    (m.insertMany more).entries = m.entries ++ (ofList more).entries := by
  suffices general : ∀ back : List (String × α),
      (insertMany ⟨m.entries ++ back⟩ more).entries =
        m.entries ++ (insertMany ⟨back⟩ more).entries by
    simpa [ofList, empty] using general []
  intro back
  induction more generalizing back with
  | nil => rfl
  | cons entry rest ih =>
    obtain ⟨first, others⟩ := List.forall_mem_cons.mp fresh
    change (insertMany ⟨upsert entry.1 (fun _ => entry.2) (m.entries ++ back)⟩ rest).entries = _
    rw [upsert_append_of_not_mem first]
    exact ih others _

theorem entries_ofList {entries : List (String × α)} (distinct : (entries.map Prod.fst).Nodup) :
    (ofList entries).entries = entries := by
  induction entries with
  | nil => rfl
  | cons first rest ih =>
    obtain ⟨absent, others⟩ := List.nodup_cons.mp distinct
    have fresh : ∀ name ∈ rest.map Prod.fst, name ∉ (⟨[first]⟩ : OrderedMap α).keys := by
      intro name member same
      rw [List.mem_singleton.mp same] at member
      exact absent member
    exact (entries_insertMany_of_fresh fresh).trans (congrArg (first :: ·) (ih others))

theorem insertMany_insert_of_fresh {m : OrderedMap α} {more : List (String × α)} {name : String}
    (taken : name ∈ m.keys) (fresh : name ∉ more.map Prod.fst) (value : α) :
    (m.insertMany more).insert name value = (m.insert name value).insertMany more := by
  induction more generalizing m with
  | nil => rfl
  | cons entry rest ih =>
    rw [List.map_cons, List.mem_cons, not_or] at fresh
    refine (ih (mem_keys_insert.mpr (.inl taken)) fresh.2).trans ?_
    rw [← insert_comm_of_mem fresh.1 (.inl taken)]
    rfl

theorem insertMany_upsert {entries : List (String × α)} (distinct : (entries.map Prod.fst).Nodup)
    (m : OrderedMap α) (name : String) (value : α) :
    m.insertMany (upsert name (fun _ => value) entries) =
      (m.insertMany entries).insert name value := by
  induction entries generalizing m with
  | nil => rfl
  | cons entry rest ih =>
    obtain ⟨key, held⟩ := entry
    obtain ⟨fresh, distinctRest⟩ := List.nodup_cons.mp distinct
    by_cases here : key = name
    · subst here
      have taken : key ∈ (m.insert key held).keys := mem_keys_insert.mpr (.inr rfl)
      simp only [upsert, if_true]
      refine Eq.trans ?_ (insertMany_insert_of_fresh taken fresh value).symm
      rw [insert_insert_self]
      rfl
    · simp only [upsert, if_neg here]
      exact ih distinctRest (m.insert key held)

theorem insertMany_insertMany {more : OrderedMap α} (distinct : more.keys.Nodup) (m : OrderedMap α)
    (last : List (String × α)) :
    m.insertMany (more.insertMany last).entries = (m.insertMany more.entries).insertMany last := by
  induction last generalizing more with
  | nil => rfl
  | cons entry rest ih =>
    refine (ih (nodup_keys_alter distinct entry.1 _)).trans ?_
    exact congrArg (insertMany · rest) (insertMany_upsert distinct m entry.1 entry.2)

theorem insertMany_ofList (m : OrderedMap α) (more : List (String × α)) :
    m.insertMany (ofList more).entries = m.insertMany more :=
  insertMany_insertMany nodup_keys_empty m more

theorem insert_insertMany_of_same {more : List (String × α)} {name : String}
    (same : ∀ other ∈ more.map Prod.fst, other = name) (m : OrderedMap α) (value : α) :
    (m.insertMany more).insert name value = m.insert name value := by
  induction more generalizing m with
  | nil => rfl
  | cons entry rest ih =>
    obtain ⟨own, others⟩ := List.forall_mem_cons.mp same
    refine (ih others (m.insert entry.1 entry.2)).trans ?_
    rw [show entry.1 = name from own, insert_insert_self]

-- Values that two names are given before their last ones do not matter, as long as
-- the places are settled: one of the two has a slot, or the one that is written
-- first comes first as well.
theorem insert_pair_insertMany {first last : String} (apart : first ≠ last)
    {more : List (String × α)} (own : ∀ name ∈ more.map Prod.fst, name = first ∨ name = last)
    {m : OrderedMap α}
    (placed : first ∈ m.keys ∨ last ∈ m.keys ∨ ∀ name ∈ (more.map Prod.fst).head?, name = first)
    (value written : α) :
    ((m.insertMany more).insert first value).insert last written =
      (m.insert first value).insert last written := by
  induction more generalizing m with
  | nil => rfl
  | cons entry rest ih =>
    obtain ⟨key, held⟩ := entry
    obtain ⟨named, others⟩ := List.forall_mem_cons.mp own
    have taken : key ∈ (m.insert key held).keys := mem_keys_insert.mpr (.inr rfl)
    rcases named with rfl | rfl
    · refine (ih others (.inl taken)).trans ?_
      rw [insert_insert_self]
    · refine (ih others (.inr (.inl taken))).trans ?_
      have slotted : first ∈ m.keys ∨ key ∈ m.keys := by
        rcases placed with taken | taken | ahead
        · exact .inl taken
        · exact .inr taken
        · exact absurd (ahead _ rfl).symm apart
      rw [← insert_comm_of_mem apart slotted, insert_insert_self]

def map (f : α → β) (m : OrderedMap α) : OrderedMap β := ⟨m.entries.map (Prod.map id f)⟩

theorem names_map (f : α → β) (entries : List (String × α)) :
    (entries.map (Prod.map id f)).map Prod.fst = entries.map Prod.fst := by
  simp

theorem map_upsert (f : α → β) (name : String) (value : α) (entries : List (String × α)) :
    (upsert name (fun _ => value) entries).map (Prod.map id f) =
      upsert name (fun _ => f value) (entries.map (Prod.map id f)) := by
  induction entries with
  | nil => rfl
  | cons entry rest ih =>
    obtain ⟨key, held⟩ := entry
    by_cases here : key = name
    · simp [upsert, here]
    · simp [upsert, here, ih]

theorem map_insertMany (f : α → β) (m : OrderedMap α) (more : List (String × α)) :
    (m.insertMany more).map f = (m.map f).insertMany (more.map (Prod.map id f)) := by
  induction more generalizing m with
  | nil => rfl
  | cons entry rest ih =>
    refine (ih (m.insert entry.1 entry.2)).trans ?_
    exact congrArg (insertMany · _) (congrArg mk (map_upsert f entry.1 entry.2 m.entries))

end ContentQuery.OrderedMap
