import ContentQuery.Decimal.Digits
import ContentQuery.Decimal.Reading

namespace ContentQuery

namespace Double
variable {num den : Nat}

-- Rounding leaves the finite range from here on: half a unit beyond the greatest
-- double, where the tie goes to the even mantissa that no double has. It has 309
-- digits, so nothing below evaluates it.
@[irreducible] def rangeEnd : Nat := (2 * mantissaEnd - 1) * Nat.pow 2 970

section Rounding

theorem div_le_roundDiv (num den : Nat) : num / den ≤ roundDiv num den := by
  unfold roundDiv
  dsimp only
  split
  · exact Nat.le_refl _
  · split
    · exact Nat.le_succ _
    · exact Nat.le_add_right _ _

theorem roundDiv_le (num den : Nat) : roundDiv num den ≤ num / den + 1 := by
  unfold roundDiv
  dsimp only
  split
  · exact Nat.le_succ _
  · split
    · exact Nat.le_refl _
    · omega

theorem succ_div_le_roundDiv (odd : (num / den) % 2 = 1) :
    num / den + 1 ≤ roundDiv num den ↔ den ≤ 2 * (num % den) := by
  unfold roundDiv
  dsimp only
  split
  · omega
  · split <;> omega

theorem le_roundDiv_iff (positive : 0 < den) {bound : Nat} (even : bound % 2 = 0) :
    bound ≤ roundDiv num den ↔ (2 * bound - 1) * den ≤ 2 * num := by
  have parts := Nat.div_add_mod num den
  have rest := Nat.mod_lt num positive
  have low := div_le_roundDiv num den
  have high := roundDiv_le num den
  rcases Nat.lt_trichotomy bound (num / den + 1) with under | same | beyond
  · have product : bound * den ≤ num / den * den := Nat.mul_le_mul_right den (by omega)
    have less : (2 * bound - 1) * den ≤ 2 * bound * den := Nat.mul_le_mul_right den (by omega)
    rw [Nat.mul_assoc] at less
    rw [Nat.mul_comm (num / den)] at product
    exact iff_of_true (by omega) (by omega)
  · subst same
    rw [succ_div_le_roundDiv (by omega)]
    have halves : (2 * (num / den + 1) - 1) * den = 2 * (den * (num / den)) + den := by
      have odd : 2 * (num / den + 1) - 1 = 2 * (num / den) + 1 := by omega
      rw [odd, Nat.add_mul, Nat.one_mul, Nat.mul_assoc, Nat.mul_comm (num / den)]
    omega
  · have product : (2 * (num / den) + 3) * den ≤ (2 * bound - 1) * den :=
      Nat.mul_le_mul_right den (by omega)
    rw [Nat.add_mul, Nat.mul_assoc, Nat.mul_comm (num / den)] at product
    exact iff_of_false (by omega) (by omega)

end Rounding

section Units
variable {bound : Nat} {exponent : Int}

-- num / den is bound · 2 ^ exponent or more.
def Reaches (num den bound : Nat) (exponent : Int) : Prop :=
  bound * (inUnits num den exponent).2 ≤ (inUnits num den exponent).1

theorem inUnits_natural (num den exponent : Nat) :
    inUnits num den exponent = (num, den * Nat.pow 2 exponent) := by
  have whole : (-(exponent : Int)).toNat = 0 := by omega
  rw [inUnits, whole, Int.toNat_natCast]
  exact congrArg (·, _) (Nat.mul_one num)

theorem inUnits_negative (num den places : Nat) :
    inUnits num den (-(places : Int)) = (num * Nat.pow 2 places, den) := by
  have fractional : (-(places : Int)).toNat = 0 := by omega
  rw [inUnits, fractional, Int.neg_neg, Int.toNat_natCast]
  exact congrArg (_, ·) (Nat.mul_one den)

theorem two_pow_succ (exponent : Nat) : Nat.pow 2 (exponent + 1) = 2 * Nat.pow 2 exponent :=
  Nat.mul_comm _ 2

theorem two_pow_add (left right : Nat) :
    Nat.pow 2 (left + right) = Nat.pow 2 left * Nat.pow 2 right := Nat.pow_add 2 left right

theorem two_pow_le {lower upper : Nat} (smaller : lower ≤ upper) :
    Nat.pow 2 lower ≤ Nat.pow 2 upper := Nat.pow_le_pow_right Nat.two_pos smaller

theorem inUnits_succ (num den : Nat) (exponent : Int) :
    (inUnits num den exponent).1 = 2 * (inUnits num den (exponent + 1)).1 ∧
        (inUnits num den exponent).2 = (inUnits num den (exponent + 1)).2 ∨
      (inUnits num den exponent).1 = (inUnits num den (exponent + 1)).1 ∧
        2 * (inUnits num den exponent).2 = (inUnits num den (exponent + 1)).2 := by
  rcases Int.lt_or_le exponent 0 with negative | natural
  · obtain ⟨places, rfl⟩ : ∃ places : Nat, exponent = -((places + 1 : Nat) : Int) :=
      ⟨(-exponent).toNat - 1, by omega⟩
    have next : -((places + 1 : Nat) : Int) + 1 = -(places : Int) := by omega
    rw [next, inUnits_negative, inUnits_negative, two_pow_succ, Nat.mul_left_comm]
    exact .inl ⟨rfl, rfl⟩
  · obtain ⟨places, rfl⟩ := Int.eq_ofNat_of_zero_le natural
    rw [← Int.natCast_succ, inUnits_natural, inUnits_natural, two_pow_succ, Nat.mul_left_comm]
    exact .inr ⟨rfl, rfl⟩

theorem inUnits_positive (positive : 0 < den) (num : Nat) (exponent : Int) :
    0 < (inUnits num den exponent).2 :=
  Nat.mul_pos positive (Nat.two_pow_pos _)

theorem reaches_double (num den bound : Nat) (exponent : Int) :
    Reaches num den (2 * bound) exponent ↔ Reaches num den bound (exponent + 1) := by
  unfold Reaches
  rcases inUnits_succ num den exponent with ⟨above, below⟩ | ⟨above, below⟩
  · rw [above, below, Nat.mul_assoc]
    omega
  · rw [above, ← below, Nat.mul_assoc, Nat.mul_left_comm]

theorem reaches_scale (num den bound : Nat) (exponent : Int) (places : Nat) :
    Reaches num den (Nat.pow 2 places * bound) exponent ↔
      Reaches num den bound (exponent + places) := by
  induction places generalizing bound with
  | zero =>
    have one : Nat.pow 2 0 * bound = bound := Nat.one_mul bound
    rw [one, Int.natCast_zero, Int.add_zero]
  | succ places ih =>
    rw [two_pow_succ, Nat.mul_comm 2, Nat.mul_assoc, ih, reaches_double]
    have next : exponent + places + 1 = exponent + ((places + 1 : Nat) : Int) := by omega
    rw [next]

theorem Reaches.mono {lower : Nat} (reached : Reaches num den bound exponent)
    (smaller : lower ≤ bound) : Reaches num den lower exponent :=
  Nat.le_trans (Nat.mul_le_mul_right _ smaller) reached

theorem Reaches.lower {least : Int} (reached : Reaches num den bound exponent)
    (smaller : least ≤ exponent) : Reaches num den bound least := by
  obtain ⟨places, rfl⟩ := Int.le.dest smaller
  refine ((reaches_scale num den bound least places).mpr reached).mono ?_
  exact Nat.le_mul_of_pos_left bound (Nat.two_pow_pos _)

theorem reaches_natural (num den bound exponent : Nat) :
    Reaches num den bound exponent ↔ den * (bound * Nat.pow 2 exponent) ≤ num := by
  rw [Reaches, inUnits_natural]
  exact (Nat.mul_left_comm bound den _) ▸ Iff.rfl

theorem reaches_rangeEnd :
    Reaches num den (2 * mantissaEnd - 1) 970 ↔ den * rangeEnd ≤ num := by
  have natural : (970 : Int) = ((970 : Nat) : Int) := rfl
  unfold rangeEnd
  rw [natural]
  generalize 970 = exponent
  exact reaches_natural num den (2 * mantissaEnd - 1) exponent

theorem le_roundDiv_inUnits (positive : 0 < den) (even : bound % 2 = 0) :
    bound ≤ roundDiv (inUnits num den (exponent + 1)).1 (inUnits num den (exponent + 1)).2 ↔
      Reaches num den (2 * bound - 1) exponent := by
  rw [le_roundDiv_iff (inUnits_positive positive num _) even, Reaches]
  rcases inUnits_succ num den exponent with ⟨above, below⟩ | ⟨above, below⟩
  · rw [above, below]
  · rw [above, ← below, Nat.mul_left_comm]
    omega

theorem le_div_inUnits (positive : 0 < den) :
    bound ≤ (inUnits num den exponent).1 / (inUnits num den exponent).2 ↔
      Reaches num den bound exponent :=
  Nat.le_div_iff_mul_le (inUnits_positive positive num exponent)

end Units

section Choice

-- The exponent of the unit that a quotient is first measured in. The powers of
-- two around its parts leave it 52 bits and at most 54.
def guess (num den : Nat) : Int := (num.log2 : Int) - den.log2 - 53

theorem reaches_guess (filled : num ≠ 0) : Reaches num den leastFull (guess num den) := by
  have above : Nat.pow 2 num.log2 ≤ num := Nat.log2_self_le filled
  have below : den ≤ Nat.pow 2 (den.log2 + 1) := Nat.le_of_lt Nat.lt_log2_self
  have exponents : 52 + (den.log2 + 1 + (guess num den).toNat) ≤
      num.log2 + (-guess num den).toNat := by
    unfold guess
    omega
  calc leastFull * (inUnits num den (guess num den)).2
      ≤ Nat.pow 2 52 * Nat.pow 2 (den.log2 + 1 + (guess num den).toNat) := by
        rw [two_pow_add (den.log2 + 1)]
        exact Nat.mul_le_mul_left _ (Nat.mul_le_mul_right _ below)
    _ ≤ Nat.pow 2 (num.log2 + (-guess num den).toNat) := by
        rw [← two_pow_add]
        exact two_pow_le exponents
    _ ≤ (inUnits num den (guess num den)).1 := by
        rw [two_pow_add]
        exact Nat.mul_le_mul_right _ above

theorem not_reaches_guess (filled : den ≠ 0) :
    ¬ Reaches num den (2 * mantissaEnd) (guess num den) := by
  have above : num < Nat.pow 2 (num.log2 + 1) := Nat.lt_log2_self
  have below : Nat.pow 2 den.log2 ≤ den := Nat.log2_self_le filled
  have exponents : num.log2 + 1 + (-guess num den).toNat ≤
      54 + (den.log2 + (guess num den).toNat) := by
    unfold guess
    omega
  apply Nat.not_le_of_lt
  calc (inUnits num den (guess num den)).1
      < Nat.pow 2 (num.log2 + 1 + (-guess num den).toNat) := by
        rw [two_pow_add (num.log2 + 1)]
        exact Nat.mul_lt_mul_of_pos_right above (Nat.two_pow_pos _)
    _ ≤ Nat.pow 2 54 * Nat.pow 2 (den.log2 + (guess num den).toNat) := by
        rw [← two_pow_add]
        exact two_pow_le exponents
    _ ≤ 2 * mantissaEnd * (inUnits num den (guess num den)).2 := by
        rw [two_pow_add den.log2]
        exact Nat.mul_le_mul_left _ (Nat.mul_le_mul_right _ below)

def fullUnit (num den : Nat) : Int :=
  if (inUnits num den (guess num den)).1 / (inUnits num den (guess num den)).2 < mantissaEnd then
    guess num den
  else guess num den + 1

theorem fullUnit_spec (num_filled : num ≠ 0) (den_filled : den ≠ 0) :
    Reaches num den leastFull (fullUnit num den) ∧
      ¬ Reaches num den mantissaEnd (fullUnit num den) := by
  have quotient := @le_div_inUnits num den mantissaEnd (guess num den) (Nat.pos_of_ne_zero den_filled)
  unfold fullUnit
  split
  · rename_i under
    exact ⟨reaches_guess num_filled, fun reached => Nat.not_le_of_lt under (quotient.mpr reached)⟩
  · rename_i full
    refine ⟨(reaches_double _ _ _ _).mp (quotient.mp (Nat.le_of_not_lt full)), fun reached => ?_⟩
    exact not_reaches_guess den_filled ((reaches_double _ _ _ _).mpr reached)

def unit (num den : Nat) : Int := max (-1074) (fullUnit num den)

def rounded (num den : Nat) : Nat :=
  roundDiv (inUnits num den (unit num den)).1 (inUnits num den (unit num den)).2

theorem rounded_le (num_filled : num ≠ 0) (den_filled : den ≠ 0) : rounded num den ≤ mantissaEnd := by
  have positive := Nat.pos_of_ne_zero den_filled
  have under : ¬ Reaches num den mantissaEnd (unit num den) := fun reached =>
    (fullUnit_spec num_filled den_filled).2 (reached.lower (Int.le_max_right _ _))
  rw [← le_div_inUnits positive] at under
  exact Nat.le_trans (roundDiv_le _ _) (Nat.lt_of_not_le under)

theorem leastFull_le_rounded (num_filled : num ≠ 0) (den_filled : den ≠ 0)
    (unforced : unit num den = fullUnit num den) : leastFull ≤ rounded num den := by
  have reached := (fullUnit_spec num_filled den_filled).1
  rw [← unforced, ← le_div_inUnits (Nat.pos_of_ne_zero den_filled)] at reached
  exact Nat.le_trans reached (div_le_roundDiv _ _)

theorem canonical_rounded (num_filled : num ≠ 0) (den_filled : den ≠ 0)
    (bounded : unit num den ≤ 971) (under : rounded num den ≠ mantissaEnd) :
    Canonical (rounded num den) (unit num den) := by
  refine ⟨Nat.lt_of_le_of_ne (rounded_le num_filled den_filled) under, Int.le_max_left _ _,
    bounded, ?_⟩
  rcases Int.le_total (fullUnit num den) (-1074) with forced | free
  · exact .inr (Int.max_eq_left forced)
  · exact .inl (leastFull_le_rounded num_filled den_filled (Int.max_eq_right free))

theorem canonical_carried (bounded : unit num den < 971) :
    Canonical leastFull (unit num den + 1) := by
  have least : -1074 ≤ unit num den := Int.le_max_left _ _
  exact ⟨by decide, by omega, by omega, .inl (Nat.le_refl _)⟩

theorem ofParts_eq_none_iff {negative : Bool} {mantissa : Nat} {exponent : Int} :
    ofParts negative mantissa exponent = none ↔ ¬ Canonical mantissa exponent := by
  unfold ofParts
  split
  · rename_i canonical
    exact iff_of_false (fun missing => by cases missing) (fun outside => outside canonical)
  · rename_i outside
    exact iff_of_true rfl outside

theorem ofRatio_of_filled (negative : Bool) (filled : num ≠ 0) :
    ofRatio negative num den =
      if rounded num den = mantissaEnd then ofParts negative leastFull (unit num den + 1)
      else ofParts negative (rounded num den) (unit num den) :=
  if_neg filled

end Choice

-- A quotient has no double just when rounding takes it out of the finite range.
theorem ofRatio_eq_none_iff (negative : Bool) (num_filled : num ≠ 0) (den_filled : den ≠ 0) :
    ofRatio negative num den = none ↔ den * rangeEnd ≤ num := by
  obtain ⟨reached, bounded⟩ := fullUnit_spec num_filled den_filled
  rw [ofRatio_of_filled negative num_filled, ← reaches_rangeEnd]
  rcases Int.lt_trichotomy (fullUnit num den) 971 with within | edge | beyond
  · have small : unit num den < 971 := Int.max_lt.mpr ⟨by omega, within⟩
    apply iff_of_false
    · split
      · rw [ofParts_eq_none_iff]
        exact not_not_intro (canonical_carried small)
      · rename_i under
        rw [ofParts_eq_none_iff]
        exact not_not_intro (canonical_rounded num_filled den_filled (Int.le_of_lt small) under)
    · intro outside
      exact bounded ((outside.mono (by decide)).lower (by omega))
  · have last : unit num den = 970 + 1 := by
      rw [unit, edge]
      rfl
    have carried : mantissaEnd ≤ rounded num den ↔ Reaches num den (2 * mantissaEnd - 1) 970 := by
      rw [rounded, last]
      exact le_roundDiv_inUnits (Nat.pos_of_ne_zero den_filled) (by decide)
    rw [← carried]
    split
    · rename_i full
      rw [ofParts_eq_none_iff, last]
      exact iff_of_true (by decide) (Nat.le_of_eq full.symm)
    · rename_i under
      have canonical := canonical_rounded num_filled den_filled (Int.le_of_eq last) under
      rw [ofParts_eq_none_iff]
      exact iff_of_false (not_not_intro canonical) (Nat.not_le_of_lt canonical.1)
  · have large : 971 < unit num den := Int.lt_of_lt_of_le beyond (Int.le_max_right _ _)
    apply iff_of_true
    · split
      · rw [ofParts_eq_none_iff]
        exact fun canonical => absurd canonical.2.2.1 (by omega)
      · rw [ofParts_eq_none_iff]
        exact fun canonical => absurd canonical.2.2.1 (by omega)
    · have doubled : Reaches num den (Nat.pow 2 2 * leastFull) 970 :=
        (reaches_scale num den leastFull 970 2).mpr (reached.lower (by omega))
      exact doubled.mono (by decide)

end Double

def Decimal.Reaches (decimal : Decimal) (bound : Nat) : Prop :=
  Nat.pow 10 (-decimal.exponent).toNat * bound ≤
    decimal.significand * Nat.pow 10 decimal.exponent.toNat

namespace Double

theorem ten_pow_pos (places : Nat) : 0 < Nat.pow 10 places := Nat.pow_pos (Nat.succ_pos 9)

theorem rangeEnd_positive : 0 < rangeEnd := by
  unfold rangeEnd
  generalize 970 = exponent
  exact Nat.mul_pos (by decide) (Nat.two_pow_pos exponent)

theorem scaled_le_ten_pow {exponent places : Nat} (large : 54 + exponent ≤ 3 * places) :
    (2 * mantissaEnd - 1) * Nat.pow 2 exponent ≤ Nat.pow 10 places :=
  calc (2 * mantissaEnd - 1) * Nat.pow 2 exponent
      ≤ Nat.pow 2 54 * Nat.pow 2 exponent := Nat.mul_le_mul_right _ (by decide)
    _ = Nat.pow 2 (54 + exponent) := (two_pow_add 54 exponent).symm
    _ ≤ Nat.pow 2 (3 * places) := two_pow_le large
    _ = Nat.pow (Nat.pow 2 3) places := Nat.pow_mul 2 3 places
    _ ≤ Nat.pow 10 places := Nat.pow_le_pow_left (by decide) places

theorem rangeEnd_le {places : Nat} (large : 400 < places) : rangeEnd ≤ Nat.pow 10 places := by
  unfold rangeEnd
  apply scaled_le_ten_pow
  omega

theorem reaches_of_large {digits : Nat} {exponent : Int} (filled : digits ≠ 0)
    (large : 400 < exponent) : Decimal.Reaches ⟨digits, exponent⟩ rangeEnd := by
  have whole : (-exponent).toNat = 0 := by omega
  unfold Decimal.Reaches
  rw [whole]
  calc Nat.pow 10 0 * rangeEnd
      = rangeEnd := Nat.one_mul rangeEnd
    _ ≤ Nat.pow 10 exponent.toNat := rangeEnd_le (by omega)
    _ ≤ digits * Nat.pow 10 exponent.toNat := Nat.le_mul_of_pos_left _ (Nat.pos_of_ne_zero filled)

theorem not_reaches_of_small {digits : Nat} {exponent : Int}
    (small : exponent < -(400 + (digits.log2 : Int))) :
    ¬ Decimal.Reaches ⟨digits, exponent⟩ rangeEnd := by
  have fractional : exponent.toNat = 0 := by omega
  have places : digits.log2 + 1 ≤ (-exponent).toNat := by omega
  unfold Decimal.Reaches
  rw [fractional]
  apply Nat.not_le_of_lt
  calc digits * Nat.pow 10 0
      = digits := Nat.mul_one digits
    _ < Nat.pow 2 (digits.log2 + 1) := Nat.lt_log2_self
    _ ≤ Nat.pow 10 (digits.log2 + 1) := Nat.pow_le_pow_left (by omega) _
    _ ≤ Nat.pow 10 (-exponent).toNat := Nat.pow_le_pow_right (by omega) places
    _ ≤ Nat.pow 10 (-exponent).toNat * rangeEnd := Nat.le_mul_of_pos_right _ rangeEnd_positive

theorem not_reaches_zero (exponent : Int) : ¬ Decimal.Reaches ⟨0, exponent⟩ rangeEnd := by
  unfold Decimal.Reaches
  rw [Nat.zero_mul]
  exact Nat.not_le_of_lt (Nat.mul_pos (ten_pow_pos _) rangeEnd_positive)

theorem ofDecimal_eq_none_iff (negative : Bool) (digits : Nat) (exponent : Int) :
    ofDecimal negative digits exponent = none ↔ Decimal.Reaches ⟨digits, exponent⟩ rangeEnd := by
  unfold ofDecimal
  split
  · rename_i zero
    subst zero
    exact iff_of_false (fun missing => by cases missing) (not_reaches_zero exponent)
  · rename_i filled
    split
    · rename_i large
      exact iff_of_true rfl (reaches_of_large filled large)
    · split
      · rename_i small
        exact iff_of_false (fun missing => by cases missing) (not_reaches_of_small small)
      · have power : ∀ places, Nat.pow 10 places ≠ 0 := fun places =>
          Nat.ne_of_gt (ten_pow_pos places)
        exact ofRatio_eq_none_iff negative (Nat.mul_ne_zero filled (power _)) (power _)

end Double
end ContentQuery
