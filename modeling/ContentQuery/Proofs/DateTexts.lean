import ContentQuery.DateTime
import ContentQuery.Proofs.IntegerTexts

namespace ContentQuery

theorem Decimal.digitsValue_zeros (count : Nat) (digits : List Char) :
    digitsValue (List.replicate count '0' ++ digits) = digitsValue digits := by
  induction count with
  | zero => rfl
  | succ count ih => exact ih

namespace DateTime
open Decimal ContentQuery.Filter

theorem skipBlank_of_stops {text : List Char} (stops : Stops Text.isBlank text) :
    skipBlank text = text :=
  Run.dropWhile_append ⟨[], by simp⟩ stops

section Padding

theorem isDigit_padded (width value : Nat) : ∀ c ∈ padded width value, c.isDigit = true := by
  intro c member
  rcases List.mem_append.mp member with zero | digit
  · rw [(List.mem_replicate.mp zero).2]
    decide
  · exact isDigit_toDigits value c digit

theorem digitsValue_padded (width value : Nat) : digitsValue (padded width value) = value := by
  unfold padded
  rw [digitsValue_zeros, digitsValue_toDigits]

theorem padded_ne_nil (width value : Nat) : padded width value ≠ [] :=
  List.append_ne_nil_of_right_ne_nil _ Nat.toDigits_ne_nil

def paddedRun (width value : Nat) : Filled Char.isDigit :=
  ⟨⟨padded width value, isDigit_padded width value⟩, padded_ne_nil width value⟩

theorem skipBlank_padded (width value : Nat) (rest : List Char) :
    skipBlank (padded width value ++ rest) = padded width value ++ rest :=
  skipBlank_of_stops ((paddedRun width value).stops_append (fun _ => Text.isBlank_of_isDigit) rest)

theorem takeWhile_padded {rest : List Char} (stops : Stops Char.isDigit rest) (width value : Nat) :
    (padded width value ++ rest).takeWhile Char.isDigit = padded width value :=
  (paddedRun width value).takeWhile_append stops

theorem dropWhile_padded {rest : List Char} (stops : Stops Char.isDigit rest) (width value : Nat) :
    (padded width value ++ rest).dropWhile Char.isDigit = rest :=
  (paddedRun width value).dropWhile_append stops

variable {width value : Nat} (filled : 0 < width) (fits : value < Nat.pow 10 width)
include filled fits

theorem length_padded : (padded width value).length = width := by
  have most : (Nat.toDigits 10 value).length ≤ width :=
    (Nat.length_toDigits_le_iff (by decide) filled).mpr fits
  unfold padded
  rw [List.length_append, List.length_replicate]
  omega

theorem takeNumber_padded (rest : List Char) :
    takeNumber width (padded width value ++ rest) = some (value, rest) := by
  have length := length_padded filled fits
  have digits := takeWhile_padded stops_nil width value
  rw [List.append_nil] at digits
  unfold takeNumber
  simp only [skipBlank_padded, List.take_left' length,
    digits, List.isEmpty_iff, padded_ne_nil, if_false, digitsValue_padded]
  rw [List.drop_left]

end Padding

theorem takeMark_cons {mark : Char} (visible : Text.isBlank mark = false) (rest : List Char) :
    takeMark mark (mark :: rest) = some rest := by
  simp only [takeMark, skipBlank_of_stops (stops_cons visible rest), if_true]

theorem signed_padded (negative : Bool) (value : Nat) {rest : List Char}
    (stops : Stops Char.isDigit rest) :
    takeYear.signed negative (padded 4 value ++ rest) = some (applySign negative value, rest) := by
  unfold takeYear.signed
  simp only [takeWhile_padded stops, List.isEmpty_iff, padded_ne_nil, if_false, digitsValue_padded]
  rw [List.drop_left]

theorem takeYear_padded (value : Nat) (rest : List Char) :
    takeYear (padded 4 value ++ rest) =
      (takeNumber 4 (padded 4 value ++ rest)).map fun (value, rest) => ((value : Int), rest) := by
  have digit : Stops (fun c => !c.isDigit) (padded 4 value ++ rest) :=
    (paddedRun 4 value).stops_append (by simp) rest
  unfold takeYear
  simp only [skipBlank_padded]
  split
  · rename_i shape
    rw [shape] at digit
    cases digit
  · rename_i shape
    rw [shape] at digit
    cases digit
  · rfl

theorem takeYear_signed {sign : Char} {negative : Bool}
    (known : sign = '-' ∧ negative = true ∨ sign = '+' ∧ negative = false) (text : List Char) :
    takeYear (sign :: text) = takeYear.signed negative text := by
  rcases known with ⟨rfl, rfl⟩ | ⟨rfl, rfl⟩ <;> rfl

-- Four digits are a year without a sign. With one, the year has all the digits
-- there are.
theorem takeYear_yearText (year : Int) {rest : List Char} (stops : Stops Char.isDigit rest) :
    takeYear (yearText year ++ rest) = some (year, rest) := by
  unfold yearText
  split
  · rename_i within
    have fits : year.toNat < Nat.pow 10 4 := by
      change year.toNat < 10000
      omega
    have whole : (year.toNat : Int) = year := Int.toNat_of_nonneg within.1
    rw [takeYear_padded, takeNumber_padded (by decide) fits]
    change some ((year.toNat : Int), rest) = some (year, rest)
    rw [whole]
  · split
    · rw [List.cons_append, takeYear_signed (.inl ⟨rfl, rfl⟩), signed_padded true _ stops]
      have whole : applySign true year.natAbs = year := by
        change -(year.natAbs : Int) = year
        omega
      rw [whole]
    · rw [List.cons_append, takeYear_signed (.inr ⟨rfl, rfl⟩), signed_padded false _ stops]
      have whole : applySign false year.natAbs = year := by
        change (year.natAbs : Int) = year
        omega
      rw [whole]

theorem takeFraction_padded {width value : Nat} (filled : 0 < width) (most : width ≤ 9)
    (fits : value < Nat.pow 10 width) :
    takeFraction ('.' :: padded width value) = some (value * Nat.pow 10 (9 - width), []) := by
  have length := length_padded filled fits
  have digits := takeWhile_padded stops_nil width value
  have rest := dropWhile_padded stops_nil width value
  rw [List.append_nil] at digits rest
  have kept : (padded width value).take 9 = padded width value :=
    List.take_of_length_le (by rw [length]; exact most)
  unfold takeFraction
  simp only [digits, kept, rest, List.isEmpty_iff, padded_ne_nil, if_false, digitsValue_padded,
    length]

theorem takeFraction_fractionText {nanosecond : Nat} (fits : nanosecond < 1000000000) :
    takeFraction (fractionText nanosecond) = some (nanosecond, []) := by
  unfold fractionText
  split
  · rename_i whole
    rw [whole]
    rfl
  · split
    · rename_i thousandths
      rw [takeFraction_padded (by decide) (by decide) (show nanosecond / 1000000 < 1000 by omega)]
      rw [show nanosecond / 1000000 * Nat.pow 10 (9 - 3) = nanosecond by
        change nanosecond / 1000000 * 1000000 = nanosecond
        omega]
    · split
      · rename_i millionths
        rw [takeFraction_padded (by decide) (by decide) (show nanosecond / 1000 < 1000000 by omega)]
        rw [show nanosecond / 1000 * Nat.pow 10 (9 - 6) = nanosecond by
          change nanosecond / 1000 * 1000 = nanosecond
          omega]
      · rw [takeFraction_padded (by decide) (by decide) fits]
        rw [show nanosecond * Nat.pow 10 (9 - 9) = nanosecond from Nat.mul_one _]

theorem ofText?_text (t : DateTime) : ofText? t.text = some t := by
  obtain ⟨year, month, day, hour, minute, second, nanosecond, valid⟩ := t
  have months := valid.monthWithin
  have days : day ≤ 31 := Nat.le_trans valid.dayWithin.2 (by unfold daysIn; split <;> split <;> omega)
  have two {value : Nat} (fits : value < 100) (rest : List Char) :=
    @takeNumber_padded 2 value (by decide) fits rest
  have hours := valid.hourWithin
  have minutes := valid.minuteWithin
  have seconds := valid.secondWithin
  have line : ∀ rest, takeMark '-' ('-' :: rest) = some rest := takeMark_cons (by decide)
  have colon : ∀ rest, takeMark ':' (':' :: rest) = some rest := takeMark_cons (by decide)
  have clock : ∀ rest, takeMark 'T' ('T' :: rest) = some rest := takeMark_cons (by decide)
  have ended : (skipBlank []).isEmpty = true := rfl
  unfold text ofText?
  simp only [List.append_assoc, List.cons_append]
  rw [takeYear_yearText year (stops_cons (by decide) _)]
  simp only [Option.bind_eq_bind, Option.bind_some, line, colon, clock,
    two (show month < 100 by omega), two (show day < 100 by omega), two (show hour < 100 by omega),
    two (show minute < 100 by omega), two (show second < 100 by omega),
    takeFraction_fractionText valid.nanosecondWithin, ended, if_true, ofFields?, dif_pos valid]

example : (ofText? " 2016-12-31T23:59:60.2500".toList).map text =
    some "2016-12-31T23:59:60.250".toList := by decide +kernel

end DateTime
end ContentQuery
