import ContentQuery.Coercion
import ContentQuery.Proofs.FailurePositions

namespace ContentQuery

namespace Decimal

theorem isDigit_toDigits (value : Nat) : ∀ c ∈ Nat.toDigits 10 value, c.isDigit = true :=
  fun _ member => Nat.isDigit_of_mem_toDigits (by decide) (by decide) member

theorem digitsValue_toDigits (value : Nat) : digitsValue (Nat.toDigits 10 value) = value :=
  Nat.ofDigitChars_ten_toDigits

end Decimal

theorem Text.bounds_of_isDigit {c : Char} (digit : c.isDigit = true) :
    '0'.toNat ≤ c.toNat ∧ c.toNat ≤ '9'.toNat := by
  simpa [Char.isDigit, Char.le_def, UInt32.le_iff_toNat_le] using digit

theorem Text.isBlank_of_isDigit {c : Char} (digit : c.isDigit = true) : isBlank c = false := by
  apply Bool.eq_false_iff.mpr
  intro blank
  obtain ⟨range, member, least, most⟩ := (covers_iff blankRanges_rising c.toNat).mp blank
  have apart : ∀ range ∈ blankRanges, range.2 < '0'.toNat ∨ '9'.toNat < range.1 := by decide
  have known := bounds_of_isDigit digit
  rcases apart range member with below | above <;> omega

theorem toList_intText (value : Int) :
    (intText value).toList =
      if value < 0 then '-' :: Nat.toDigits 10 value.natAbs else Nat.toDigits 10 value.natAbs := by
  unfold intText
  split <;> simp

theorem edged_intText (value : Int) : Filter.Edged (intText value).toList := by
  have unblank : ∀ c ∈ Nat.toDigits 10 value.natAbs, Text.isBlank c = false :=
    fun c member => Text.isBlank_of_isDigit (Decimal.isDigit_toDigits _ c member)
  rw [toList_intText]
  split
  · apply Filter.edged_of_unblank (List.cons_ne_nil _ _)
    exact List.forall_mem_cons.mpr ⟨by decide, unblank⟩
  · exact Filter.edged_of_unblank Nat.toDigits_ne_nil unblank

namespace Coercion
open Decimal Json

section Digits
variable {digits : List Char} (each : ∀ c ∈ digits, c.isDigit = true)
include each

theorem takeWhile_isDigit : digits.takeWhile Char.isDigit = digits := by
  have taken := Filter.Run.takeWhile_append ⟨digits, each⟩ Filter.stops_nil
  rwa [List.append_nil] at taken

theorem leadingInteger_minus :
    leadingInteger ('-' :: digits) =
      if (digitsValue digits : Int) ≤ greatestSigned then -(digitsValue digits : Int) else 0 := by
  simp only [leadingInteger, takeWhile_isDigit each, Int.neg_one_mul]

theorem leadingInteger_bare :
    leadingInteger digits =
      if (digitsValue digits : Int) ≤ greatestSigned then (digitsValue digits : Int) else 0 := by
  unfold leadingInteger
  split
  rename_i split
  split at split
  · exact absurd (each '-' List.mem_cons_self) (by decide)
  · exact absurd (each '+' List.mem_cons_self) (by decide)
  · cases split
    simp only [takeWhile_isDigit each, Int.one_mul]

end Digits

-- The sign is set aside before the digits are measured, so the range of texts is
-- symmetric: the least integer of 64 bits is not in it.
theorem leadingInteger_intText (value : Int) :
    leadingInteger (intText value).toList =
      if -greatestSigned ≤ value ∧ value ≤ greatestSigned then value else 0 := by
  have each := isDigit_toDigits value.natAbs
  have size : (digitsValue (Nat.toDigits 10 value.natAbs) : Int) = value.natAbs := by
    rw [digitsValue_toDigits]
  rw [toList_intText]
  split
  · rw [leadingInteger_minus each, size]
    unfold greatestSigned
    split <;> split <;> omega
  · rw [leadingInteger_bare each, size]
    unfold greatestSigned
    split <;> split <;> omega

-- A number is brought into the range of 64 bits; of a text beyond the range
-- nothing is left.
theorem integers_coerced (value : Int) :
    integer.apply (Json.int value) = Json.int (max leastSigned (min greatestSigned value)) ∧
      integer.apply (.str (Number.int value).text) =
        Json.int (if -greatestSigned ≤ value ∧ value ≤ greatestSigned then value else 0) ∧
      (integer.apply (Json.int value) = integer.apply (.str (Number.int value).text) ↔
        -greatestSigned ≤ value ∧ value ≤ greatestSigned) := by
  have number : integer.apply (Json.int value) =
      Json.int (max leastSigned (min greatestSigned value)) := rfl
  have text : integer.apply (.str (Number.int value).text) =
      Json.int (if -greatestSigned ≤ value ∧ value ≤ greatestSigned then value else 0) := by
    rw [← leadingInteger_intText, ← (edged_intText value).trimChars]
    rfl
  refine ⟨number, text, ?_⟩
  rw [number, text]
  simp only [Json.int, Json.num.injEq, Number.int.injEq]
  unfold leastSigned greatestSigned
  split <;> omega

theorem least_integer_lost_in_text :
    integer.apply (Json.int leastSigned) = Json.int leastSigned ∧
      integer.apply (.str (Number.int leastSigned).text) = Json.int 0 ∧
      integer.apply (Json.int greatestUnsigned) = Json.int greatestSigned ∧
      integer.apply (.str (Number.int greatestUnsigned).text) = Json.int 0 := by
  decide

end Coercion
end ContentQuery
