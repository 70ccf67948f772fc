import ContentQuery.Clause.Tree
import ContentQuery.OrderedMap

namespace ContentQuery

theorem toNat_toLower (c : Char) :
    c.toLower.toNat = if 65 ≤ c.toNat ∧ c.toNat ≤ 90 then c.toNat + 32 else c.toNat := by
  unfold Char.toLower
  split
  · rename_i capital
    have range : 65 ≤ c.toNat ∧ c.toNat ≤ 90 := capital
    rw [if_pos range]
    change (c.val + ('a'.val - 'A'.val)).toNat = c.val.toNat + 32
    have bound : c.val.toNat ≤ 90 := range.2
    rw [UInt32.toNat_add]
    change (c.val.toNat + 32) % 4294967296 = _
    omega
  · rename_i other
    have range : ¬ (65 ≤ c.toNat ∧ c.toNat ≤ 90) := other
    rw [if_neg range]

theorem toLower_eq_iff {c capital : Char} (range : 65 ≤ capital.toNat ∧ capital.toNat ≤ 90) :
    c.toLower = capital.toLower ↔ c = capital.toLower ∨ c = capital := by
  rw [← Char.toNat_inj, ← Char.toNat_inj, ← Char.toNat_inj, toNat_toLower, toNat_toLower,
    if_pos range]
  split <;> omega

namespace Relation

def orSpellings : List String := ["or", "oR", "Or", "OR"]

theorem sameLetters_or_iff {name : String} : sameLetters name "OR" = true ↔ name ∈ orSpellings := by
  constructor
  · intro same
    obtain ⟨first, rest, split, small, more⟩ := List.map_eq_cons_iff.mp (beq_iff_eq.mp same)
    obtain ⟨last, final, rfl, low, none⟩ := List.map_eq_cons_iff.mp more
    rw [List.map_eq_nil_iff.mp none] at split
    have spelled : name = String.ofList [first, last] := by rw [← split, String.ofList_toList]
    rw [spelled]
    rcases (@toLower_eq_iff first 'O' (by decide)).mp small with rfl | rfl <;>
      rcases (@toLower_eq_iff last 'R' (by decide)).mp low with rfl | rfl <;>
      decide
  · intro spelled
    exact List.all_eq_true.mp (show (orSpellings.all fun name => sameLetters name "OR") = true by decide)
      name spelled

theorem ofName_eq (name : String) : ofName name = if name ∈ orSpellings then .or else .and := by
  unfold ofName named?
  by_cases spelled : name ∈ orSpellings
  · rw [if_pos spelled, if_pos (sameLetters_or_iff.mpr spelled), if_neg]
    · rfl
    · have other : (orSpellings.all fun name => !sameLetters name "AND") = true := by decide
      simpa using List.all_eq_true.mp other name spelled
  · rw [if_neg spelled, if_neg (fun same => spelled (sameLetters_or_iff.mp same))]
    split <;> rfl

end Relation

namespace LevelRelations
open OrderedMap

def find? (relations : LevelRelations) (level : Nat) : Option Relation :=
  relations.entries.lookup level

theorem find?_empty (level : Nat) : empty.find? level = none := rfl

theorem lookup_eq_none_of_below {entries : List (Nat × Relation)} {level : Nat}
    (above : ∀ entry ∈ entries, level < entry.1) : entries.lookup level = none := by
  rw [List.lookup_eq_none_iff]
  intro entry member
  have := above entry member
  simp only [bne_iff_ne]
  omega

theorem lookup_eq_none_of_below_head {entries : List (Nat × Relation)} {level head : Nat}
    {relation : Relation}
    (rising : ((head, relation) :: entries).Pairwise fun lower higher => lower.1 < higher.1)
    (below : level < head) : ((head, relation) :: entries).lookup level = none := by
  apply lookup_eq_none_of_below
  intro entry member
  rcases List.mem_cons.mp member with rfl | later
  · exact below
  · exact Nat.lt_trans below ((List.pairwise_cons.mp rising).1 entry later)

theorem lookup_place (level other : Nat) (relation : Relation) {entries : List (Nat × Relation)}
    (rising : entries.Pairwise fun lower higher => lower.1 < higher.1) :
    (place level relation entries).lookup other =
      if other = level then (entries.lookup level).or (some relation)
      else entries.lookup other := by
  induction entries with
  | nil =>
    by_cases same : other = level
    · simp [place, same]
    · simp [place, lookup_cons_of_ne same, same]
  | cons head rest ih =>
    obtain ⟨kept, value⟩ := head
    have tail := (List.pairwise_cons.mp rising).2
    simp only [place]
    split
    · rename_i below
      rw [lookup_eq_none_of_below_head rising below]
      by_cases same : other = level
      · simp [same]
      · simp [lookup_cons_of_ne same, same]
    · split
      · rename_i same
        subst same
        by_cases here : other = level
        · subst here
          simp
        · rw [if_neg here]
      · rename_i different
        by_cases here : other = kept
        · have away : ¬ kept = level := fun same => different same.symm
          subst here
          rw [if_neg away, List.lookup_cons_self, List.lookup_cons_self]
        · simp only [lookup_cons_of_ne here, lookup_cons_of_ne different, ih tail]

theorem find?_record (relations : LevelRelations) (level other : Nat) (relation : Relation) :
    (relations.record level relation).find? other =
      if other = level then (relations.find? level).or (some relation)
      else relations.find? other :=
  lookup_place level other relation relations.rising

theorem find?_recordEach (relations : LevelRelations) (more : List (Nat × Relation)) (level : Nat) :
    (relations.recordEach more).find? level = (relations.find? level).or (more.lookup level) := by
  induction more generalizing relations with
  | nil => simp [recordEach]
  | cons entry rest ih =>
    obtain ⟨placed, relation⟩ := entry
    have step := ih (relations.record placed relation)
    rw [find?_record] at step
    change ((relations.record placed relation).recordEach rest).find? level = _
    rw [step]
    by_cases same : level = placed
    · subst same
      simp
    · simp [lookup_cons_of_ne same, same]

theorem entries_ext {left right : List (Nat × Relation)}
    (risingLeft : left.Pairwise fun lower higher => lower.1 < higher.1)
    (risingRight : right.Pairwise fun lower higher => lower.1 < higher.1)
    (same : ∀ level, left.lookup level = right.lookup level) : left = right := by
  induction left generalizing right with
  | nil =>
    cases right with
    | nil => rfl
    | cons head rest =>
      obtain ⟨level, relation⟩ := head
      simpa using same level
  | cons head rest ih =>
    obtain ⟨level, relation⟩ := head
    obtain ⟨above, tail⟩ := List.pairwise_cons.mp risingLeft
    cases right with
    | nil => simpa using same level
    | cons head' rest' =>
      obtain ⟨level', relation'⟩ := head'
      obtain ⟨above', tail'⟩ := List.pairwise_cons.mp risingRight
      -- A head below the other one would be found on its own side alone.
      have levels : level = level' := by
        rcases Nat.lt_trichotomy level level' with below | equal | beyond
        · have absent := lookup_eq_none_of_below_head risingRight below
          simpa [absent] using same level
        · exact equal
        · have absent := lookup_eq_none_of_below_head risingLeft beyond
          simpa [absent] using same level'
      subst levels
      have values : relation = relation' := by simpa using same level
      have rests : rest = rest' := by
        apply ih tail tail'
        intro other
        by_cases here : other = level
        · subst here
          rw [lookup_eq_none_of_below above, lookup_eq_none_of_below above']
        · simpa [lookup_cons_of_ne here] using same other
      rw [values, rests]

theorem ext_find? {left right : LevelRelations}
    (same : ∀ level, left.find? level = right.find? level) : left = right := by
  obtain ⟨entries, rising⟩ := left
  obtain ⟨entries', rising'⟩ := right
  have equal : entries = entries' := entries_ext rising rising' same
  subst equal
  rfl

theorem recordEach_append (relations : LevelRelations) (first second : List (Nat × Relation)) :
    relations.recordEach (first ++ second) = (relations.recordEach first).recordEach second :=
  List.foldl_append

theorem find?_ofList (records : List (Nat × Relation)) (level : Nat) :
    (ofList records).find? level = records.lookup level := by
  have found := find?_recordEach empty records level
  rwa [find?_empty, Option.none_or] at found

theorem recordAll_ofList (relations : LevelRelations) (records : List (Nat × Relation)) :
    relations.recordAll (ofList records) = relations.recordEach records := by
  apply ext_find?
  intro level
  have gathered : (ofList records).entries.lookup level = records.lookup level :=
    find?_ofList records level
  rw [recordAll, find?_recordEach, find?_recordEach, gathered]

theorem entries_recordAll_ne_nil {relations more : LevelRelations} (spoken : more.entries ≠ []) :
    (relations.recordAll more).entries ≠ [] := by
  intro bare
  obtain ⟨⟨level, relation⟩, rest, split⟩ := List.exists_cons_of_ne_nil spoken
  have found := find?_recordEach relations more.entries level
  rw [← recordAll, find?, bare, split, List.lookup_cons_self] at found
  cases held : relations.find? level <;> simp [held] at found

theorem entries_ofList_eq_nil {records : List (Nat × Relation)} :
    (ofList records).entries = [] ↔ records = [] := by
  constructor
  · intro bare
    cases records with
    | nil => rfl
    | cons head rest =>
      obtain ⟨level, relation⟩ := head
      have found := find?_ofList ((level, relation) :: rest) level
      simp [find?, bare] at found
  · rintro rfl
    rfl

-- The earliest of the records at the smallest level that any of them has.
def Leads (records : List (Nat × Relation)) (relation : Relation) : Prop :=
  ∃ earlier level later, records = earlier ++ (level, relation) :: later ∧
    (∀ record ∈ earlier, level < record.1) ∧ ∀ record ∈ later, level ≤ record.1

theorem lowest_eq_some_iff {relations : LevelRelations} {relation : Relation} :
    relations.lowest = some relation ↔
      ∃ level, relations.find? level = some relation ∧
        ∀ lower, lower < level → relations.find? lower = none := by
  obtain ⟨entries, rising⟩ := relations
  cases entries with
  | nil => simp [lowest, find?]
  | cons head rest =>
    obtain ⟨level, value⟩ := head
    obtain ⟨above, _⟩ := List.pairwise_cons.mp rising
    constructor
    · intro leads
      have equal : value = relation := by simpa [lowest] using leads
      subst equal
      refine ⟨level, by simp [find?], ?_⟩
      intro lower below
      exact lookup_eq_none_of_below_head rising below
    · intro given
      obtain ⟨found, here, absent⟩ := given
      by_cases same : found = level
      · subst same
        simpa [lowest, find?] using here
      · have member : (found, relation) ∈ rest := by
          have tail : rest.lookup found = some relation := by
            simpa [find?, lookup_cons_of_ne same] using here
          obtain ⟨before, after, split, _⟩ := List.lookup_eq_some_iff.mp tail
          simp [split]
        have missing := absent level (above _ member)
        simp [find?] at missing

theorem lowest_ofList {records : List (Nat × Relation)} {relation : Relation} :
    (ofList records).lowest = some relation ↔ Leads records relation := by
  rw [lowest_eq_some_iff]
  constructor
  · intro given
    obtain ⟨level, here, absent⟩ := given
    rw [find?_ofList] at here
    obtain ⟨earlier, later, split, fresh⟩ := List.lookup_eq_some_iff.mp here
    have least : ∀ record ∈ records, level ≤ record.1 := by
      intro record member
      apply Nat.not_lt.mp
      intro smaller
      have missing := absent record.1 smaller
      rw [find?_ofList, List.lookup_eq_none_iff] at missing
      simpa using missing record member
    refine ⟨earlier, level, later, split, ?_, ?_⟩
    · intro record member
      have bound := least record (by simp [split, member])
      have different := fresh record member
      simp only [bne_iff_ne] at different
      omega
    · intro record member
      exact least record (by simp [split, member])
  · intro given
    obtain ⟨earlier, level, later, rfl, above, least⟩ := given
    refine ⟨level, ?_, ?_⟩
    · rw [find?_ofList, List.lookup_eq_some_iff]
      refine ⟨earlier, later, rfl, ?_⟩
      intro record member
      have := above record member
      simp only [bne_iff_ne]
      omega
    · intro lower below
      rw [find?_ofList]
      apply lookup_eq_none_of_below
      intro record member
      rcases List.mem_append.mp member with early | late
      · exact Nat.lt_trans below (above record early)
      · rcases List.mem_cons.mp late with rfl | later
        · exact below
        · exact Nat.lt_of_lt_of_le below (least record later)

theorem lowest_eq_none_iff {relations : LevelRelations} :
    relations.lowest = none ↔ relations.entries = [] := by
  simp [lowest]

end LevelRelations
end ContentQuery
