namespace ContentQuery

-- A map that remembers insertion order. Writing to a name that is present
-- replaces the value and keeps the slot; a new name goes to the end.
structure OrderedMap (α : Type) where
  entries : List (String × α)
  deriving Repr, DecidableEq

namespace OrderedMap
variable {α β : Type}

def empty : OrderedMap α := ⟨[]⟩

instance : Inhabited (OrderedMap α) := ⟨empty⟩

def upsert (name : String) (change : Option α → α) : List (String × α) → List (String × α)
  | [] => [(name, change none)]
  | (key, value) :: rest =>
    if key = name then (key, change (some value)) :: rest
    else (key, value) :: upsert name change rest

def alter (m : OrderedMap α) (name : String) (change : Option α → α) : OrderedMap α :=
  ⟨upsert name change m.entries⟩

def insert (m : OrderedMap α) (name : String) (value : α) : OrderedMap α :=
  m.alter name fun _ => value

def insertMany (m : OrderedMap α) (more : List (String × α)) : OrderedMap α :=
  more.foldl (fun m entry => m.insert entry.1 entry.2) m

def ofList (entries : List (String × α)) : OrderedMap α := empty.insertMany entries

def get? (m : OrderedMap α) (name : String) : Option α := m.entries.lookup name

def contains (m : OrderedMap α) (name : String) : Bool := (m.get? name).isSome

def keys (m : OrderedMap α) : List String := m.entries.map Prod.fst

def size (m : OrderedMap α) : Nat := m.entries.length

def isEmpty (m : OrderedMap α) : Bool := m.entries.isEmpty

theorem lookup_cons_of_ne {κ : Type} [BEq κ] [LawfulBEq κ] {key other : κ} (h : other ≠ key)
    (value : α) (rest : List (κ × α)) : ((key, value) :: rest).lookup other = rest.lookup other := by
  rw [List.lookup_cons, beq_eq_false_iff_ne.mpr h]

theorem lookup_eq_none_iff_not_mem {name : String} {entries : List (String × α)} :
    entries.lookup name = none ↔ name ∉ entries.map Prod.fst := by
  induction entries with
  | nil => simp
  | cons entry rest ih =>
    obtain ⟨key, value⟩ := entry
    by_cases h : name = key
    · simp [h]
    · rw [lookup_cons_of_ne h, ih, List.map_cons, List.mem_cons, not_or]
      exact ⟨fun absent => ⟨h, absent⟩, fun absent => absent.2⟩

theorem lookup_of_mem {entries : List (String × α)} (distinct : (entries.map Prod.fst).Nodup)
    {name : String} {value : α} (member : (name, value) ∈ entries) :
    entries.lookup name = some value := by
  obtain ⟨before, after, rfl⟩ := List.append_of_mem member
  rw [List.map_append, List.nodup_append] at distinct
  have free : name ∉ before.map Prod.fst := fun taken =>
    distinct.2.2 name taken name List.mem_cons_self rfl
  rw [List.lookup_append, lookup_eq_none_iff_not_mem.mpr free, Option.none_or,
    List.lookup_cons_self]

theorem lookup_upsert_self (name : String) (change : Option α → α) (entries : List (String × α)) :
    (upsert name change entries).lookup name = some (change (entries.lookup name)) := by
  induction entries with
  | nil => simp [upsert]
  | cons entry rest ih =>
    obtain ⟨key, value⟩ := entry
    by_cases h : key = name
    · simp [upsert, h]
    · simp only [upsert, h, if_false, lookup_cons_of_ne (fun e => h e.symm), ih]

theorem lookup_upsert_of_ne {name other : String} (h : other ≠ name) (change : Option α → α)
    (entries : List (String × α)) :
    (upsert name change entries).lookup other = entries.lookup other := by
  induction entries with
  | nil => simp [upsert, h]
  | cons entry rest ih =>
    obtain ⟨key, value⟩ := entry
    by_cases k : key = name
    · subst k
      simp only [upsert, if_true, lookup_cons_of_ne h]
    · simp [upsert, k, List.lookup_cons, ih]

theorem keys_upsert (name : String) (change : Option α → α) (entries : List (String × α)) :
    (upsert name change entries).map Prod.fst =
      if name ∈ entries.map Prod.fst then entries.map Prod.fst
      else entries.map Prod.fst ++ [name] := by
  induction entries with
  | nil => simp [upsert]
  | cons entry rest ih =>
    obtain ⟨key, value⟩ := entry
    by_cases h : key = name
    · simp [upsert, h]
    · have away : name ≠ key := fun e => h e.symm
      simp only [upsert, h, if_false, List.map_cons, ih, List.mem_cons, away, false_or]
      split <;> rfl

theorem get?_alter_self (m : OrderedMap α) (name : String) (change : Option α → α) :
    (m.alter name change).get? name = some (change (m.get? name)) :=
  lookup_upsert_self name change m.entries

theorem get?_alter_of_ne (m : OrderedMap α) {name other : String} (h : other ≠ name)
    (change : Option α → α) : (m.alter name change).get? other = m.get? other :=
  lookup_upsert_of_ne h change m.entries

theorem get?_insert_self (m : OrderedMap α) (name : String) (value : α) :
    (m.insert name value).get? name = some value := get?_alter_self m name _

theorem get?_insert_of_ne (m : OrderedMap α) {name other : String} (h : other ≠ name) (value : α) :
    (m.insert name value).get? other = m.get? other := get?_alter_of_ne m h _

theorem keys_alter (m : OrderedMap α) (name : String) (change : Option α → α) :
    (m.alter name change).keys = if name ∈ m.keys then m.keys else m.keys ++ [name] :=
  keys_upsert name change m.entries

theorem nodup_keys_alter {m : OrderedMap α} (distinct : m.keys.Nodup) (name : String)
    (change : Option α → α) : (m.alter name change).keys.Nodup := by
  rw [keys_alter]
  split
  · exact distinct
  · rename_i absent
    rw [List.nodup_append]
    refine ⟨distinct, List.pairwise_singleton _ _, ?_⟩
    intro old member new single same
    rw [List.mem_singleton] at single
    exact absent (single ▸ same ▸ member)

end OrderedMap
end ContentQuery
