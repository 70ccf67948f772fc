import ContentQuery.Text.Alphanumeric
import ContentQuery.Text.LowerCase

namespace ContentQuery

namespace Text

section LowerTable
variable {code low high first last step : Nat} {shift : Int} {rows : List (Nat × Nat × Nat × Int)}

def shifted (code : Nat) (shift : Int) : Nat := (code + shift).toNat

-- No row lowers a code point from `low` to `high`, or none with the parity of `low`
-- when the code points are `even` steps apart.
def isPassed (low high : Nat) (even : Bool) : List (Nat × Nat × Nat × Int) → Bool
  | [] => true
  | (first, last, step, _) :: rest =>
    high < first ||
      ((last < low || even && step == 2 && (low + first) % 2 == 1) && isPassed low high even rest)

theorem lowerCode_of_passed {even : Bool} (passed : isPassed low high even rows = true)
    (least : low ≤ code) (most : code ≤ high) (parity : even = true → code % 2 = low % 2) :
    lowerCode rows code = code := by
  induction rows with
  | nil => rfl
  | cons row rest ih =>
    obtain ⟨first, last, step, shift⟩ := row
    simp only [isPassed, Bool.or_eq_true, Bool.and_eq_true, decide_eq_true_iff, beq_iff_eq]
      at passed
    rw [lowerCode]
    by_cases ahead : code < first
    · exact if_pos ahead
    · rcases passed with beyond | ⟨clear, passed⟩
      · omega
      · have missed : ¬ (decide (code ≤ last) && (code - first) % step == 0) = true := by
          rw [Bool.and_eq_true, decide_eq_true_iff, beq_iff_eq]
          rintro ⟨reached, hit⟩
          rcases clear with behind | ⟨⟨steps, rfl⟩, odd⟩
          · omega
          · have same := parity steps
            omega
        rw [if_neg ahead, if_neg missed]
        exact ih passed

theorem lowerCode_cases (rows : List (Nat × Nat × Nat × Int)) (code : Nat) :
    lowerCode rows code = code ∨ ∃ first last step shift, (first, last, step, shift) ∈ rows ∧
      first ≤ code ∧ code ≤ last ∧ (code - first) % step = 0 ∧
      lowerCode rows code = shifted code shift := by
  induction rows with
  | nil => exact .inl rfl
  | cons row rest ih =>
    obtain ⟨first, last, step, shift⟩ := row
    rw [lowerCode]
    split
    · exact .inl rfl
    · rename_i above
      split
      · rename_i hit
        rw [Bool.and_eq_true, decide_eq_true_iff, beq_iff_eq] at hit
        exact .inr ⟨first, last, step, shift, List.mem_cons_self, Nat.not_lt.mp above, hit.1,
          hit.2, rfl⟩
      · rcases ih with same | ⟨first, last, step, shift, member, lowered⟩
        · exact .inl same
        · exact .inr ⟨first, last, step, shift, List.mem_cons_of_mem _ member, lowered⟩

def isWithin (low high : Nat) : List (Nat × Nat) → Bool
  | [] => false
  | (first, last) :: rest =>
    if low ≤ last then first ≤ low && high ≤ last else isWithin low high rest

theorem covers_of_within {least : Nat} {ranges : List (Nat × Nat)} (rising : isRising least ranges)
    (within : isWithin low high ranges = true) (above : low ≤ code) (below : code ≤ high) :
    covers ranges code = true := by
  rw [covers_iff rising]
  clear rising
  induction ranges with
  | nil => cases within
  | cons range rest ih =>
    rw [isWithin] at within
    split at within
    · rw [Bool.and_eq_true, decide_eq_true_iff, decide_eq_true_iff] at within
      exact ⟨range, List.mem_cons_self, Nat.le_trans within.1 above, Nat.le_trans below within.2⟩
    · obtain ⟨holding, member, held⟩ := ih within
      exact ⟨holding, List.mem_cons_of_mem _ member, held⟩

def isLowering : Nat × Nat × Nat × Int → Bool
  | (first, last, step, shift) =>
    let low := shifted first shift
    let high := shifted last shift
    0 < low && (high < 0x130 || 0x130 < low) && isWithin low high alphanumericRanges &&
      isPassed low high (step == 2 || first == last) lowerRows

theorem lowerRows_lowering : lowerRows.all isLowering = true := by decide +kernel

theorem lowerCode_lowered (known : covers alphanumericRanges code = true) (plain : code ≠ 0x130) :
    covers alphanumericRanges (lowerCode lowerRows code) = true ∧
      lowerCode lowerRows (lowerCode lowerRows code) = lowerCode lowerRows code ∧
      lowerCode lowerRows code ≠ 0x130 := by
  rcases lowerCode_cases lowerRows code with
    same | ⟨first, last, step, shift, member, least, most, hit, moved⟩
  · rw [same]
    exact ⟨known, same, plain⟩
  · have lowering := List.all_eq_true.mp lowerRows_lowering _ member
    simp only [isLowering, Bool.and_eq_true, Bool.or_eq_true, decide_eq_true_iff]
      at lowering
    obtain ⟨⟨⟨positive, apart⟩, within⟩, passed⟩ := lowering
    have low : shifted first shift ≤ shifted code shift := by
      unfold shifted
      omega
    have high : shifted code shift ≤ shifted last shift := by
      unfold shifted
      omega
    rw [moved]
    refine ⟨covers_of_within alphanumericRanges_rising within low high, ?_, by omega⟩
    refine lowerCode_of_passed passed low high fun even => ?_
    rw [Bool.or_eq_true, beq_iff_eq, beq_iff_eq] at even
    unfold shifted at positive ⊢
    rcases even with rfl | rfl
    · omega
    · have alone : code = first := by omega
      rw [alone]

end LowerTable

section Letters
variable {c : Char} {before text : List Char}

def dotAbove : Char := '\u0307'

theorem isValidChar_of_alphanumeric {code : Nat} (known : covers alphanumericRanges code = true) :
    code.isValidChar := by
  have valid : ∀ range ∈ alphanumericRanges,
      range.2 < 0xd800 ∨ 0xdfff < range.1 ∧ range.2 < 0x110000 := by
    decide +kernel
  obtain ⟨range, member, low, high⟩ := (covers_iff alphanumericRanges_rising code).mp known
  rcases valid range member with before | ⟨behind, least⟩
  · exact .inl (by omega)
  · exact .inr ⟨by omega, by omega⟩

theorem lowerChar_of_plain (letter : isAlphanumeric c = true) (plain : c ≠ '\u0130') :
    ∃ small, lowerChar c = [small] ∧ isAlphanumeric small = true ∧ lowerChar small = [small] := by
  have apart : c.toNat ≠ 0x130 := fun same => plain (Char.toNat_inj.mp same)
  obtain ⟨known, fixed, undotted⟩ := lowerCode_lowered letter apart
  have code : (Char.ofNat (lowerCode lowerRows c.toNat)).toNat = lowerCode lowerRows c.toNat := by
    rw [Char.ofNat, dif_pos (isValidChar_of_alphanumeric known)]
    rfl
  refine ⟨_, if_neg plain, ?_, ?_⟩
  · rw [isAlphanumeric, code]
    exact known
  · rw [lowerChar, code, fixed, if_neg]
    intro dotted
    rw [dotted] at code
    exact undotted code.symm

structure Lowered (c : Char) : Prop where
  letter : isAlphanumeric c = true ∨ c = dotAbove
  fixed : lowerChar c = [c]

theorem not_isAlphanumeric_dotAbove : ¬ isAlphanumeric dotAbove = true := by decide +kernel

theorem lowered_dotAbove : Lowered dotAbove := ⟨.inr rfl, by decide +kernel⟩

theorem lowerFrom_of_lowered (lowered : ∀ c ∈ text, Lowered c) : lowerFrom before text = text := by
  induction text generalizing before with
  | nil => rfl
  | cons c rest ih =>
    have fixed := (lowered c List.mem_cons_self).fixed
    have apart : c ≠ 'Σ' := by
      rintro rfl
      revert fixed
      decide +kernel
    rw [lowerFrom, if_neg apart, fixed, ih fun other member =>
      lowered other (List.mem_cons_of_mem _ member)]
    rfl

theorem lowerFrom_cons_of_letter (letter : isAlphanumeric c = true) (before rest : List Char) :
    ∃ image, lowerFrom before (c :: rest) = image ++ lowerFrom (c :: before) rest ∧ image ≠ [] ∧
      (∀ small ∈ image, Lowered small) ∧ (dotAbove ∈ image ↔ c = '\u0130') := by
  have single : ∀ {small}, isAlphanumeric small = true → lowerChar small = [small] →
      c ≠ '\u0130' → [small] ≠ [] ∧ (∀ other ∈ [small], Lowered other) ∧
        (dotAbove ∈ [small] ↔ c = '\u0130') := by
    intro small known fixed plain
    refine ⟨List.cons_ne_nil _ _, List.forall_mem_singleton.mpr ⟨.inl known, fixed⟩, ?_⟩
    rw [List.mem_singleton]
    refine ⟨fun same => ?_, fun dotted => absurd dotted plain⟩
    exact absurd (same ▸ known) not_isAlphanumeric_dotAbove
  refine ⟨_, rfl, ?_⟩
  by_cases sigma : c = 'Σ'
  · rw [if_pos sigma]
    have plain : c ≠ '\u0130' := by
      rw [sigma]
      decide
    split
    · exact single (by decide +kernel) (by decide +kernel) plain
    · exact single (by decide +kernel) (by decide +kernel) plain
  · rw [if_neg sigma]
    by_cases dotted : c = '\u0130'
    · have image : lowerChar c = ['i', dotAbove] := if_pos dotted
      rw [image]
      refine ⟨List.cons_ne_nil _ _, ?_, by simp [dotted]⟩
      intro small member
      simp only [List.mem_cons, List.not_mem_nil, or_false] at member
      rcases member with rfl | rfl
      · exact ⟨.inl (by decide +kernel), by decide +kernel⟩
      · exact lowered_dotAbove
    · obtain ⟨small, image, known, fixed⟩ := lowerChar_of_plain letter dotted
      rw [image]
      exact single known fixed dotted

theorem lowerFrom_of_letters (letters : ∀ c ∈ text, isAlphanumeric c = true) :
    (∀ small ∈ lowerFrom before text, Lowered small) ∧
      (dotAbove ∈ lowerFrom before text ↔ '\u0130' ∈ text) := by
  induction text generalizing before with
  | nil => exact ⟨nofun, by simp [lowerFrom]⟩
  | cons c rest ih =>
    obtain ⟨image, split, -, lowered, dotted⟩ :=
      lowerFrom_cons_of_letter (letters c List.mem_cons_self) before rest
    obtain ⟨others, dots⟩ := @ih (c :: before) fun other member =>
      letters other (List.mem_cons_of_mem _ member)
    rw [split, List.mem_append, List.mem_cons, dotted, dots, eq_comm]
    exact ⟨List.forall_mem_append.mpr ⟨lowered, others⟩, Iff.rfl⟩

theorem lowerChars_ne_nil (letters : ∀ c ∈ text, isAlphanumeric c = true) (filled : text ≠ []) :
    lowerChars text ≠ [] := by
  obtain ⟨c, rest, rfl⟩ := List.exists_cons_of_ne_nil filled
  obtain ⟨image, split, kept, -⟩ :=
    lowerFrom_cons_of_letter (letters c List.mem_cons_self) [] rest
  rw [lowerChars, split]
  exact List.append_ne_nil_of_left_ne_nil kept _

end Letters

end Text
end ContentQuery
