import ContentQuery.Proofs.IntegerTexts
import ContentQuery.Proofs.NestedTexts

namespace ContentQuery

namespace Text

theorem bare_of_unblank {text : String} (unblank : ∀ c ∈ text.toList, isBlank c = false) :
    Bare text := by
  by_cases empty : text.toList = []
  · exact ⟨by rw [empty]; trivial, by rw [empty]; trivial⟩
  · have edged := Filter.edged_of_unblank empty unblank
    exact ⟨edged.front, edged.back⟩

def isNumeral (c : Char) : Bool := c.isDigit || ['-', '+', '.', 'e'].contains c

def Numeral (text : String) : Prop := text.toList.all isNumeral = true

instance (text : String) : Decidable (Numeral text) :=
  inferInstanceAs (Decidable (text.toList.all isNumeral = true))

theorem isBlank_of_isNumeral {c : Char} (numeral : isNumeral c = true) : isBlank c = false := by
  rw [isNumeral, Bool.or_eq_true, List.contains_iff_mem] at numeral
  rcases numeral with digit | mark
  · exact isBlank_of_isDigit digit
  · have unblank : (['-', '+', '.', 'e'].all fun mark => !isBlank mark) = true := by decide
    simpa using List.all_eq_true.mp unblank c mark

namespace Numeral

theorem bare {text : String} (numeral : Numeral text) : Bare text :=
  bare_of_unblank fun c member => isBlank_of_isNumeral (List.all_eq_true.mp numeral c member)

theorem append {first last : String} (ahead : Numeral first) (behind : Numeral last) :
    Numeral (first ++ last) := by
  rw [Numeral, String.toList_append, List.all_append, Bool.and_eq_true]
  exact ⟨ahead, behind⟩

theorem of_digits {digits : List Char} (each : ∀ c ∈ digits, c.isDigit = true) :
    Numeral (String.ofList digits) := by
  rw [Numeral, String.toList_ofList, List.all_eq_true]
  intro c member
  rw [isNumeral, each c member, Bool.true_or]

theorem of_nat (value : Nat) : Numeral (toString value) :=
  of_digits (Decimal.isDigit_toDigits value)

theorem zeros (count : Int) : Numeral (zeros count) := by
  suffices filled : ∀ length : Nat, Numeral ("".pushn '0' length) from filled count.toNat
  intro length
  induction length with
  | zero => exact of_digits nofun
  | succ length ih =>
    change (("".pushn '0' length).push '0').toList.all isNumeral = true
    rw [String.toList_push, List.all_append, Bool.and_eq_true]
    exact ⟨ih, by decide⟩

theorem of_decimal (style : NumberStyle) (value : Decimal) : Numeral (style.text value) := by
  have each := Decimal.isDigit_toDigits value.significand
  have front (count : Nat) :=
    of_digits fun c member => each c (List.mem_of_mem_take (i := count) member)
  have back (count : Nat) :=
    of_digits fun c member => each c (List.mem_of_mem_drop (i := count) member)
  unfold NumberStyle.text
  dsimp only
  split
  · split
    · exact ((of_digits each).append (zeros _)).append (by decide)
    · split
      · exact ((front _).append (by decide)).append (back _)
      · exact (append (by decide) (zeros _)).append (of_digits each)
  · refine append (append (append (append (front 1) ?_) (by decide)) ?_) (of_nat _)
    · split
      · decide
      · exact append (by decide) (back 1)
    · split <;> decide

theorem of_number (number : Number) : Numeral number.text := by
  cases number with
  | int value =>
    change Numeral (intText value)
    unfold intText
    split
    · exact append (by decide) (of_nat _)
    · exact of_nat _
  | real value =>
    change Numeral ((if value.negative then "-" else "") ++ jsonNumbers.text value.shortest)
    refine append ?_ (of_decimal _ _)
    split <;> decide

end Numeral
end Text

def Number.whole : Number → Int
  | .int value => value
  | .real value => value.truncate

namespace Coercion
open Json

inductive Normal : Coercion → Json → Prop where
  | text {held : String} (bare : Text.Bare held) : Normal .text (.str held)
  | textOfArray (items : List Json) : Normal .text (.arr items)
  | textOfObject (fields : List (String × Json)) : Normal .text (.obj fields)
  | integer {value : Int} (least : leastSigned ≤ value) (most : value ≤ greatestSigned) :
    Normal .integer (Json.int value)
  | array {items : List Json} (bare : ∀ held, .str held ∈ items → Text.Bare held) :
    Normal .array (.arr items)

theorem clamp_within (value : Int) : leastSigned ≤ clamp value ∧ clamp value ≤ greatestSigned := by
  unfold clamp leastSigned greatestSigned
  omega

theorem clamp_of_within {value : Int} (least : leastSigned ≤ value) (most : value ≤ greatestSigned) :
    clamp value = value := by
  unfold clamp
  omega

theorem leadingInteger_eq_signed (text : List Char) :
    ∃ (negative : Bool) (size : Nat), (size : Int) ≤ greatestSigned ∧
      leadingInteger text = Decimal.applySign negative size := by
  unfold leadingInteger
  split
  rename_i sign rest read
  have known : sign = 1 ∨ sign = -1 := by
    split at read <;> cases read <;> simp
  generalize Decimal.digitsValue (rest.takeWhile Char.isDigit) = size
  by_cases fits : (size : Int) ≤ greatestSigned
  · rcases known with rfl | rfl
    · exact ⟨false, size, fits, by rw [if_pos fits, Int.one_mul]; rfl⟩
    · exact ⟨true, size, fits, by rw [if_pos fits, Int.neg_one_mul]; rfl⟩
  · exact ⟨false, 0, by decide, if_neg fits⟩

theorem bare_of_trimItem {item : Json} {held : String} (trimmed : trimItem item = .str held) :
    Text.Bare held := by
  cases item with
  | str text => exact Json.str.inj trimmed ▸ Text.bare_trim text
  | null | bool _ | num _ | arr _ | obj _ => cases trimmed

-- A number beyond 64 bits goes to the nearer end of the range. A text whose digits
-- go beyond it counts as none, so the sign has room before what is left.
theorem integerOf_cases (value : Json) :
    match value with
    | .num number => integerOf value = max leastSigned (min greatestSigned number.whole)
    | .str _ => ∃ (negative : Bool) (size : Nat), (size : Int) ≤ greatestSigned ∧
        integerOf value = Decimal.applySign negative size
    | _ => integerOf value = 0 ∨ integerOf value = 1 := by
  cases value with
  | num number => cases number <;> rfl
  | str raw => exact leadingInteger_eq_signed (Text.trimChars raw.toList)
  | null => exact .inl rfl
  | bool held => cases held <;> simp [integerOf]
  | arr items => cases items <;> simp [integerOf]
  | obj fields => cases fields <;> simp [integerOf]

theorem integerOf_within (value : Json) :
    leastSigned ≤ integerOf value ∧ integerOf value ≤ greatestSigned := by
  have known := integerOf_cases value
  cases value with
  | num number => exact known ▸ clamp_within number.whole
  | str raw =>
    obtain ⟨negative, size, fits, same⟩ := known
    rw [same]
    unfold Decimal.applySign leastSigned
    unfold greatestSigned at fits ⊢
    split <;> omega
  | null | bool _ | arr _ | obj _ =>
    unfold leastSigned greatestSigned
    rcases known with zero | one <;> omega

theorem apply_normal (coercion : Coercion) (value : Json) :
    Normal coercion (coercion.apply value) := by
  cases coercion with
  | text =>
    cases value with
    | str raw => exact .text (Text.bare_trim raw)
    | num number => exact .text (Text.Numeral.of_number number).bare
    | bool held =>
      refine .text (Text.Numeral.bare ?_)
      cases held <;> decide
    | null => exact .text (Text.Numeral.bare (by decide))
    | arr items => exact .textOfArray items
    | obj fields => exact .textOfObject fields
  | integer => exact .integer (integerOf_within value).1 (integerOf_within value).2
  | array =>
    have trimmed (items : List Json) : ∀ held, .str held ∈ items.map trimItem → Text.Bare held := by
      intro held member
      obtain ⟨item, _, same⟩ := List.mem_map.mp member
      exact bare_of_trimItem same
    cases value with
    | arr items => exact .array (trimmed items)
    | null | bool _ | num _ | str _ | obj _ => exact .array (trimmed [_])

theorem apply_of_normal {coercion : Coercion} {value : Json} (normal : Normal coercion value) :
    coercion.apply value = value := by
  cases normal with
  | text bare => exact congrArg Json.str (Text.trim_eq_self_iff.mpr bare)
  | textOfArray items => rfl
  | textOfObject fields => rfl
  | integer least most => exact congrArg Json.int (clamp_of_within least most)
  | @array items bare =>
    refine congrArg Json.arr ((List.map_congr_left ?_).trans (List.map_id items))
    intro item member
    cases item with
    | str held => exact congrArg Json.str (Text.trim_eq_self_iff.mpr (bare held member))
    | null | bool _ | num _ | arr _ | obj _ => rfl

theorem apply_eq_self_iff {coercion : Coercion} {value : Json} :
    coercion.apply value = value ↔ Normal coercion value :=
  ⟨fun kept => kept ▸ apply_normal coercion value, apply_of_normal⟩

-- Each coercion leaves its own results alone, and what it leaves alone is said
-- without it. An integer is one of 64 bits, and nothing on the way to it leaves
-- that range.
theorem coerced_once (value : Json) :
    (∀ coercion : Coercion, Normal coercion (coercion.apply value) ∧
      coercion.apply (coercion.apply value) = coercion.apply value ∧
      (coercion.apply value = value ↔ Normal coercion value)) ∧
    (∃ whole, integer.apply value = Json.int whole ∧
      leastSigned ≤ whole ∧ whole ≤ greatestSigned ∧
      match value with
      | .num number => whole = max leastSigned (min greatestSigned number.whole)
      | .str _ => ∃ (negative : Bool) (size : Nat), (size : Int) ≤ greatestSigned ∧
          whole = Decimal.applySign negative size
      | _ => whole = 0 ∨ whole = 1) ∧
    (∃ items, array.apply value = .arr items) ∧
    match value with
    | .arr _ | .obj _ => text.apply value = value
    | _ => ∃ held, text.apply value = .str held ∧ Text.Bare held := by
  refine ⟨?_, ?_, ?_, ?_⟩
  · intro coercion
    have normal := apply_normal coercion value
    exact ⟨normal, apply_of_normal normal, apply_eq_self_iff⟩
  · have within := integerOf_within value
    exact ⟨integerOf value, rfl, within.1, within.2, integerOf_cases value⟩
  · cases value <;> exact ⟨_, rfl⟩
  · have normal := apply_normal .text value
    cases value with
    | arr items => rfl
    | obj fields => rfl
    | null | bool _ | num _ | str _ =>
      cases normal with
      | text bare => exact ⟨_, rfl, bare⟩

end Coercion
end ContentQuery
