import ContentQuery.Json.Reader
import ContentQuery.Json.Printer
import ContentQuery.Proofs.IntegerTexts
import ContentQuery.Proofs.Insertions

namespace ContentQuery.Json
open Text Decimal ContentQuery.Filter

section Strings

theorem hexUnit_control : ∀ code < 32,
    hexUnit '0' '0' (hexDigit (code / 16)) (hexDigit code) = some code := by
  decide

def readBehind (c : Char) (rest : List Char) : Option (List Char × List Char) :=
  (readString rest).map fun taken => (c :: taken.1, taken.2)

variable {a b c d : Char} {unit : Nat}

-- A unit that is no surrogate is read alone. The reader looks for a second unit
-- behind it first, and so there are two cases that read it.
theorem readString_unit (read : hexUnit a b c d = some unit) (low : unit < 0xd800)
    (rest : List Char) :
    readString ('\\' :: 'u' :: a :: b :: c :: d :: rest) = readBehind (Char.ofNat unit) rest := by
  have high : isHighSurrogate unit = false := by simp [isHighSurrogate]; omega
  have lower : isLowSurrogate unit = false := by simp [isLowSurrogate]; omega
  rw [readString.eq_def, readBehind, Option.map_eq_bind]
  split
  · rename_i shape
    cases shape
  · rename_i shape
    cases shape
  · rename_i shape
    cases shape
    simp only [read, high, lower, Option.bind_eq_bind, Option.bind_some, Bool.false_eq_true, if_false]
    rfl
  · rename_i shape
    cases shape
    simp only [read, high, lower, Option.bind_eq_bind, Option.bind_some, Bool.false_eq_true, if_false,
      Bool.or_self]
    rfl
  · rename_i single shape
    cases shape
    exact (single a b c d rest rfl rfl).elim
  · rename_i single _ shape
    cases shape
    exact (single a b c d rest rfl rfl).elim

theorem readString_escaped {mark plain : Char} (known : escaped mark = some plain)
    (short : mark ≠ 'u') (rest : List Char) :
    readString ('\\' :: mark :: rest) = readBehind plain rest := by
  rw [readString.eq_def, readBehind, Option.map_eq_bind]
  split
  · rename_i shape
    cases shape
  · rename_i shape
    cases shape
  · rename_i shape
    cases shape
    exact absurd rfl short
  · rename_i shape
    cases shape
    exact absurd rfl short
  · rename_i shape
    cases shape
    simp only [known, Option.bind_eq_bind, Option.bind_some]
    rfl
  · rename_i single shape
    cases shape
    exact (single mark rest rfl rfl).elim

theorem readString_plain {plain : Char} (visible : ¬ plain.toNat < 0x20) (quote : plain ≠ '"')
    (slash : plain ≠ '\\') (rest : List Char) :
    readString (plain :: rest) = readBehind plain rest := by
  rw [readString.eq_def, readBehind, Option.map_eq_bind]
  split
  · rename_i shape
    cases shape
  · rename_i shape
    cases shape
    exact absurd rfl quote
  · rename_i shape
    cases shape
    exact absurd rfl slash
  · rename_i shape
    cases shape
    exact absurd rfl slash
  · rename_i shape
    cases shape
    exact absurd rfl slash
  · rename_i shape
    cases shape
    simp only [if_neg visible]
    rfl

theorem escapeChar_cases (c : Char) :
    (∃ mark, escapeChar c = ['\\', mark] ∧ escaped mark = some c ∧ mark ≠ 'u') ∨
      (c.toNat < 0x20 ∧
        escapeChar c = ['\\', 'u', '0', '0', hexDigit (c.toNat / 16), hexDigit c.toNat]) ∨
      (¬ c.toNat < 0x20 ∧ c ≠ '"' ∧ c ≠ '\\' ∧ escapeChar c = [c]) := by
  by_cases named : c ∈ ['"', '\\', '\n', '\r', '\t', '\x08', '\x0c']
  · refine .inl ?_
    simp only [List.mem_cons, List.not_mem_nil, or_false] at named
    rcases named with rfl | rfl | rfl | rfl | rfl | rfl | rfl <;> exact ⟨_, rfl, rfl, by decide⟩
  · refine .inr ?_
    simp only [List.mem_cons, List.not_mem_nil, or_false, not_or] at named
    by_cases control : c.toNat < 0x20
    · exact .inl ⟨control, by simp only [escapeChar, named, control, if_true, if_false]⟩
    · exact .inr ⟨control, named.1, named.2.1, by simp only [escapeChar, named, control, if_false]⟩

theorem readString_escapeChar (c : Char) (rest : List Char) :
    readString (escapeChar c ++ rest) = readBehind c rest := by
  rcases escapeChar_cases c with ⟨mark, written, known, short⟩ | ⟨control, written⟩ |
    ⟨visible, quote, slash, written⟩
  · rw [written]
    exact readString_escaped known short rest
  · rw [written]
    refine (readString_unit (hexUnit_control c.toNat control) (by omega) rest).trans ?_
    rw [Char.ofNat_toNat]
  · rw [written]
    exact readString_plain visible quote slash rest

theorem readString_quoted (text rest : List Char) :
    readString (text.flatMap escapeChar ++ '"' :: rest) = some (text, rest) := by
  induction text with
  | nil => rfl
  | cons c more ih =>
    rw [List.flatMap_cons, List.append_assoc, readString_escapeChar, readBehind, ih]
    rfl

end Strings

section Numbers

def continuesNumber (c : Char) : Bool := c.isDigit || c == '.' || c == 'e' || c == 'E'

variable {rest : List Char}

theorem takeFraction_of_stops (stops : Stops continuesNumber rest) :
    takeFraction rest = some ([], rest) := by
  unfold takeFraction
  split
  · cases stops
  · rfl

theorem takeExponent_of_stops (stops : Stops continuesNumber rest) :
    takeExponent rest = some (none, rest) := by
  cases rest with
  | nil => rfl
  | cons c more =>
    have other : (c = 'e' || c = 'E') = false := by
      have ended : continuesNumber c = false := stops
      simp [continuesNumber] at ended
      simp [ended]
    simp only [takeExponent, other, Bool.false_eq_true, if_false]

theorem stops_isDigit (stops : Stops continuesNumber rest) : Stops Char.isDigit rest := by
  cases rest with
  | nil => trivial
  | cons c more =>
    have ended : continuesNumber c = false := stops
    simp [continuesNumber] at ended
    exact ended.1.1.1

theorem le_foldl_digits (digits : List Char) (value : Nat) :
    value ≤ digits.foldl (fun value c => 10 * value + digitValue c) value := by
  induction digits generalizing value with
  | nil => exact Nat.le_refl value
  | cons c more ih =>
    have grown := ih (10 * value + digitValue c)
    rw [List.foldl_cons]
    omega

theorem wholeDigits_of_fits {digits : List Char} {s : Significand}
    (fits : digits.foldl (fun value c => 10 * value + digitValue c) s.value ≤ 18446744073709551615) :
    wholeDigits s digits =
      ⟨digits.foldl (fun value c => 10 * value + digitValue c) s.value, s.exponent⟩ := by
  induction digits generalizing s with
  | nil => rfl
  | cons c more ih =>
    rw [List.foldl_cons] at fits
    have first : s.fits c = true := by
      have grown := le_foldl_digits more (10 * s.value + digitValue c)
      simp only [Significand.fits, decide_eq_true_eq]
      omega
    rw [wholeDigits, if_pos first, ih fits]
    rfl

theorem eq_zero_of_leading_zero {value : Nat}
    (leading : (Nat.toDigits 10 value).head? = some '0') : value = 0 := by
  induction value using Nat.strongRecOn with
  | ind value ih =>
    by_cases small : value < 10
    · have only : ∀ digit < 10, Nat.digitChar digit = '0' → digit = 0 := by decide
      rw [Nat.toDigits_of_lt_base small] at leading
      exact only value small (Option.some.inj leading)
    · obtain ⟨first, more, shape⟩ := List.exists_cons_of_ne_nil
        (@Nat.toDigits_ne_nil (value / 10) 10)
      rw [Nat.toDigits_of_base_le (by decide) (by omega), shape] at leading
      have shorter := ih (value / 10) (by omega) (by rw [shape]; exact leading)
      omega

theorem plain_toDigits (value : Nat) :
    ((Nat.toDigits 10 value).isEmpty ||
      ((Nat.toDigits 10 value).head? == some '0' && (Nat.toDigits 10 value).length != 1)) = false := by
  have filled : (Nat.toDigits 10 value).isEmpty = false := by simp
  rw [filled, Bool.false_or]
  by_cases leading : (Nat.toDigits 10 value).head? = some '0'
  · rw [eq_zero_of_leading_zero leading]
    rfl
  · simp [leading]

theorem wholeDigits_toDigits {value : Nat} (fits : value ≤ 18446744073709551615) :
    wholeDigits ⟨0, 0⟩ (Nat.toDigits 10 value) = ⟨value, 0⟩ := by
  have read := digitsValue_toDigits value
  unfold digitsValue at read
  rw [wholeDigits_of_fits (by rw [read]; exact fits), read]

theorem wholeNumber_natAbs {value : Int} (least : leastSigned ≤ value) :
    wholeNumber (decide (value < 0)) ⟨value.natAbs, 0⟩ = some (.int value) := by
  unfold leastSigned at least
  by_cases below : value < 0
  · have size : 0 < value.natAbs ∧ value.natAbs ≤ 9223372036854775808 := by omega
    have whole : -(value.natAbs : Int) = value := by omega
    have sign : ¬ ((0 : Int) = 0 ∧ ¬ decide (value < 0) = true) := fun plain =>
      plain.2 (decide_eq_true below)
    rw [wholeNumber, if_neg sign, if_pos ⟨rfl, size⟩, whole]
  · have whole : (value.natAbs : Int) = value := by omega
    have sign : (0 : Int) = 0 ∧ ¬ decide (value < 0) = true := ⟨rfl, by simpa using below⟩
    rw [wholeNumber, if_pos sign, whole]

theorem readNumber_intText {value : Int} (least : leastSigned ≤ value)
    (most : value ≤ greatestUnsigned) (stops : Stops continuesNumber rest) :
    readNumber ((intText value).toList ++ rest) = some (.int value, rest) := by
  have each := isDigit_toDigits value.natAbs
  have digits : (Nat.toDigits 10 value.natAbs ++ rest).takeWhile Char.isDigit =
      Nat.toDigits 10 value.natAbs := Run.takeWhile_append ⟨_, each⟩ (stops_isDigit stops)
  have behind : (Nat.toDigits 10 value.natAbs ++ rest).dropWhile Char.isDigit = rest :=
    Run.dropWhile_append ⟨_, each⟩ (stops_isDigit stops)
  have whole : wholeDigits ⟨0, 0⟩ (Nat.toDigits 10 value.natAbs) = ⟨value.natAbs, 0⟩ := by
    apply wholeDigits_toDigits
    unfold leastSigned at least
    unfold greatestUnsigned at most
    omega
  rw [toList_intText]
  unfold readNumber
  split
  rename_i negative text read
  have signed : negative = decide (value < 0) ∧ text = Nat.toDigits 10 value.natAbs ++ rest := by
    by_cases below : value < 0
    · rw [if_pos below] at read
      cases read
      exact ⟨(decide_eq_true below).symm, rfl⟩
    · rw [if_neg below] at read
      split at read
      · rename_i shape
        have digit : Stops (fun c => !c.isDigit) (Nat.toDigits 10 value.natAbs ++ rest) :=
          Filled.stops_append ⟨⟨_, each⟩, Nat.toDigits_ne_nil⟩ (by simp) rest
        rw [shape] at digit
        cases digit
      · cases read
        exact ⟨(decide_eq_false below).symm, rfl⟩
  rw [signed.1, signed.2]
  simp only [digits, behind, plain_toDigits, whole, Bool.false_eq_true, if_false,
    takeFraction_of_stops stops, takeExponent_of_stops stops, Option.bind_eq_bind, Option.bind_some,
    wholeNumber_natAbs least]
  rfl

end Numbers

section Lists
variable {α : Type}

-- What a taker takes, without the bound on what it leaves.
def takes (taker : Taker α) (text : List Char) : Option (α × List Char) :=
  (taker text).map Subtype.val

theorem takes_shorter {text : List Char} {read : Option (α × List Char)} {taken : α × List Char}
    (found : read = some taken) (less : taken.2.length < text.length) :
    (shorter text read).map Subtype.val = some taken := by
  rw [found, shorter, Option.bind_some, dif_pos less]
  rfl

theorem exists_of_takes {taker : Taker α} {text : List Char} {taken : α × List Char}
    (read : takes taker text = some taken) : ∃ less, taker text = some ⟨taken, less⟩ := by
  obtain ⟨⟨held, less⟩, found, rfl⟩ := Option.map_eq_some_iff.mp read
  exact ⟨less, found⟩

variable {skip : List Char → List Char} (shrinks : ∀ text, (skip text).length ≤ text.length)
  {closing : Char} {item : Taker α} {text after : List Char} {first : α}

theorem takes_last (read : takes item text = some (first, closing :: after))
    (kept : skip (closing :: after) = closing :: after) :
    takes (takeSeparated skip shrinks false closing item) text = some ([first], after) := by
  obtain ⟨less, found⟩ := exists_of_takes read
  unfold takes takeSeparated
  split
  · rename_i missing
    rw [found] at missing
    cases missing
  · rename_i held rest shorter same
    rw [found] at same
    cases same
    split
    · rename_i empty
      rw [kept] at empty
      cases empty
    · rename_i c behind seen
      rw [kept] at seen
      cases seen
      simp

theorem takes_further {next : Char} {last : List Char} {taken : List α × List Char}
    (read : takes item text = some (first, ',' :: next :: last)) (apart : closing ≠ ',')
    (kept : skip (',' :: next :: last) = ',' :: next :: last)
    (skipped : skip (next :: last) = next :: last)
    (more : takes (takeSeparated skip shrinks false closing item) (next :: last) = some taken) :
    takes (takeSeparated skip shrinks false closing item) text =
      some (first :: taken.1, taken.2) := by
  obtain ⟨less, found⟩ := exists_of_takes read
  obtain ⟨fewer, others⟩ := exists_of_takes more
  rw [takes, takeSeparated]
  split
  · rename_i missing
    rw [found] at missing
    cases missing
  · rename_i held rest shorter same
    rw [found] at same
    cases same
    split
    · rename_i empty
      rw [kept] at empty
      cases empty
    · rename_i c behind seen
      rw [kept] at seen
      cases seen
      rw [if_neg apart.symm, if_pos rfl]
      split
      · rename_i empty
        rw [skipped] at empty
        cases empty
      · rename_i n l ended
        rw [skipped] at ended
        cases ended
        rw [if_neg (fun trailing => Bool.false_ne_true trailing.1)]
        split
        · rename_i missing
          rw [others] at missing
          cases missing
        · rename_i list final later whole
          rw [others] at whole
          cases whole
          rfl

end Lists

theorem exists_behind (separator first : List Char) (others : List (List Char)) :
    ∃ behind, separator.intercalate (first :: others) = first ++ behind := by
  cases others with
  | nil => exact ⟨[], by rw [List.intercalate_singleton, List.append_nil]⟩
  | cons next more => exact ⟨_, by rw [List.intercalate_cons_cons, List.append_assoc]⟩

def noValue : List Char := [' ', '\t', '\r', '\n', ']', '\x7d']

def startsNone (c : Char) : Bool := noValue.contains c

theorem stops_isSpace {text : List Char} (stops : Stops startsNone text) : Stops isSpace text := by
  cases text with
  | nil => trivial
  | cons c more =>
    have outside : startsNone c = false := stops
    simp only [startsNone, noValue, List.contains_cons, Bool.or_eq_false_iff] at outside
    simp only [Stops, isSpace, outside, Bool.or_false]

theorem skipSpace_of_startsNone {text : List Char} (stops : Stops startsNone text) :
    skipSpace text = text :=
  skipSpace_of_stops (stops_isSpace stops)

section Written
variable {α : Type} {write : α → List Char} {items : List α} (filled : items ≠ [])
  (starts : ∀ item ∈ items, write item ≠ [] ∧ Stops startsNone (write item))
include filled starts

theorem stops_separated (rest : List Char) :
    Stops startsNone ([','].intercalate (items.map write) ++ rest) := by
  obtain ⟨first, more, rfl⟩ := List.exists_cons_of_ne_nil filled
  obtain ⟨begun, visible⟩ := starts first List.mem_cons_self
  obtain ⟨behind, split⟩ := exists_behind [','] (write first) (more.map write)
  rw [List.map_cons, split, List.append_assoc]
  exact (stops_append begun _).mpr visible

theorem takes_separated {closing : Char} (visible : isSpace closing = false) (apart : closing ≠ ',')
    {taker : Taker α} (rest : List Char)
    (each : ∀ item ∈ items, ∀ stop rest, stop = ',' ∨ stop = closing →
      takes taker (write item ++ stop :: rest) = some (item, stop :: rest)) :
    takes (takeSeparated skipSpace skipSpace_le false closing taker)
      ([','].intercalate (items.map write) ++ closing :: rest) = some (items, rest) := by
  induction items with
  | nil => exact absurd rfl filled
  | cons item others ih =>
    obtain ⟨first, later⟩ := List.forall_mem_cons.mp each
    have begun := (List.forall_mem_cons.mp starts).2
    cases others with
    | nil =>
      have kept : skipSpace (closing :: rest) = closing :: rest :=
        skipSpace_of_stops (stops_cons visible rest)
      rw [List.map_singleton, List.intercalate_singleton]
      exact takes_last skipSpace_le (first closing rest (.inr rfl)) kept
    | cons next more =>
      have behind := ih (List.cons_ne_nil next more) begun later
      have ahead := stops_separated (List.cons_ne_nil next more) begun (closing :: rest)
      rw [List.map_cons, List.map_cons, List.intercalate_cons_cons, ← List.map_cons,
        List.append_assoc, List.append_assoc, List.singleton_append]
      obtain ⟨c, last, shape⟩ := List.exists_cons_of_ne_nil
        (List.append_ne_nil_of_right_ne_nil ([','].intercalate ((next :: more).map write))
          (List.cons_ne_nil closing rest))
      rw [shape] at behind ahead ⊢
      exact takes_further skipSpace_le (first ',' (c :: last) (.inl rfl)) apart
        (skipSpace_of_stops (stops_cons (by decide) _)) (skipSpace_of_startsNone ahead) behind

end Written

-- The values that are printed as one text and read back as they are.
inductive Readable : Nat → Json → Prop where
  | null {depth : Nat} : Readable depth .null
  | bool {depth : Nat} (held : Bool) : Readable depth (.bool held)
  | int {depth : Nat} {value : Int} (least : leastSigned ≤ value)
    (most : value ≤ greatestUnsigned) : Readable depth (.num (.int value))
  | str {depth : Nat} (text : String) : Readable depth (.str text)
  | arr {depth : Nat} {items : List Json} (each : ∀ item ∈ items, Readable depth item) :
    Readable (depth + 1) (.arr items)
  | obj {depth : Nat} {fields : List (String × Json)} (distinct : (fields.map Prod.fst).Nodup)
    (each : ∀ field ∈ fields, Readable depth field.2) : Readable (depth + 1) (.obj fields)

section Scalars
variable {rest : List Char}

theorem takeValue_of_stops (depth : Nat) {text : List Char} (stops : Stops ['[', '\x7b'].contains text) :
    takeValue depth text = takeScalar text := by
  unfold takeValue
  split
  · cases stops
  · cases stops
  · rfl

theorem takes_scalar {depth : Nat} {text : List Char} {taken : Json × List Char}
    (stops : Stops ['[', '\x7b'].contains text) (read : takes takeScalar text = some taken) :
    takes (takeValue depth) text = some taken := by
  rw [takes, takeValue_of_stops depth stops]
  exact read

theorem takes_null : takes takeScalar ("null".toList ++ rest) = some (.null, rest) :=
  takes_shorter rfl (Nat.lt_add_of_pos_right (show 0 < 4 by decide))

theorem takes_bool (held : Bool) :
    takes takeScalar ((if held then "true" else "false").toList ++ rest) = some (.bool held, rest) := by
  cases held with
  | true => exact takes_shorter rfl (Nat.lt_add_of_pos_right (show 0 < 4 by decide))
  | false => exact takes_shorter rfl (Nat.lt_add_of_pos_right (show 0 < 5 by decide))

theorem toList_quote_append (text : String) (rest : List Char) :
    (quote text).toList ++ rest = '"' :: (text.toList.flatMap escapeChar ++ '"' :: rest) := by
  simp [quote]

theorem takes_str (text : String) :
    takes takeScalar ((quote text).toList ++ rest) = some (.str text, rest) := by
  rw [toList_quote_append]
  apply takes_shorter
  · simp only [readString_quoted, Option.map_some, String.ofList_toList]
  · simp only [List.length_cons, List.length_append]
    omega

theorem takeScalar_of_stops {text : List Char} (stops : Stops ['n', 't', 'f', '"'].contains text) :
    takeScalar text =
      shorter text ((readNumber text).map fun (number, rest) => (Json.num number, rest)) := by
  unfold takeScalar
  split
  · cases stops
  · cases stops
  · cases stops
  · cases stops
  · rfl

theorem exists_head_intText (value : Int) :
    ∃ c more, (intText value).toList = c :: more ∧ (c == '-' || c.isDigit) = true := by
  rw [toList_intText]
  split
  · exact ⟨'-', _, rfl, rfl⟩
  · obtain ⟨c, more, shape⟩ := List.exists_cons_of_ne_nil (@Nat.toDigits_ne_nil value.natAbs 10)
    have digit := isDigit_toDigits value.natAbs c (shape ▸ List.mem_cons_self)
    exact ⟨c, more, shape, by rw [digit, Bool.or_true]⟩

theorem stops_intText (value : Int) {marks : List Char}
    (apart : (marks.any fun c => c == '-' || c.isDigit) = false) (rest : List Char) :
    Stops marks.contains ((intText value).toList ++ rest) := by
  obtain ⟨c, more, shape, leads⟩ := exists_head_intText value
  rw [shape]
  apply stops_cons
  apply Bool.eq_false_iff.mpr
  intro member
  exact absurd leads (List.any_eq_false.mp apart c (List.contains_iff_mem.mp member))

theorem takes_int {value : Int} (least : leastSigned ≤ value) (most : value ≤ greatestUnsigned)
    (stops : Stops continuesNumber rest) :
    takes takeScalar ((intText value).toList ++ rest) = some (.num (.int value), rest) := by
  rw [takes, takeScalar_of_stops (stops_intText value (by decide) rest),
    readNumber_intText least most stops]
  apply takes_shorter rfl
  obtain ⟨c, more, shape, -⟩ := exists_head_intText value
  rw [shape, List.length_append, List.length_cons]
  simp only
  omega

end Scalars

section Containers
variable {depth : Nat} {rest text : List Char} {held : Json}

theorem takes_key (name : String) (stops : Stops isSpace rest) :
    takes takeKey ((quote name).toList ++ ':' :: rest) = some (name, rest) := by
  have colon : skipSpace (':' :: rest) = ':' :: rest := skipSpace_of_stops (stops_cons (by decide) rest)
  rw [toList_quote_append]
  apply takes_shorter
  · simp only [readString_quoted, Option.bind_eq_bind, Option.bind_some, colon,
      skipSpace_of_stops stops, String.ofList_toList]
  · simp only [List.length_cons, List.length_append]
    omega

theorem takes_field {value : Taker Json} (name : String) (stops : Stops isSpace text)
    (read : takes value text = some (held, rest)) :
    takes (takeField value) ((quote name).toList ++ ':' :: text) = some ((name, held), rest) := by
  obtain ⟨less, key⟩ := exists_of_takes (takes_key name stops)
  obtain ⟨more, found⟩ := exists_of_takes read
  simp only [takes, takeField, key, found, Option.bind_eq_bind, Option.bind_some]
  rfl

theorem takes_arr_nil :
    takes (takeValue (depth + 1)) ('[' :: ']' :: rest) = some (.arr [], rest) := by
  unfold takes takeValue
  exact takes_shorter rfl (Nat.lt_add_of_pos_right (show 0 < 2 by decide))

theorem takes_obj_nil :
    takes (takeValue (depth + 1)) ('\x7b' :: '\x7d' :: rest) = some (.obj [], rest) := by
  unfold takes takeValue
  exact takes_shorter rfl (Nat.lt_add_of_pos_right (show 0 < 2 by decide))

theorem takes_arr {items : List Json} {inside : List Char}
    (stops : Stops startsNone inside)
    (read : takes (takeSeparated skipSpace skipSpace_le false ']' (takeValue depth)) inside =
      some (items, rest)) :
    takes (takeValue (depth + 1)) ('[' :: inside) = some (.arr items, rest) := by
  obtain ⟨less, found⟩ := exists_of_takes read
  unfold takes takeValue
  apply takes_shorter
  · rw [skipSpace_of_startsNone stops]
    split
    · cases stops
    · rw [found]
      rfl
  · exact Nat.lt_succ_of_lt less

theorem takes_obj {fields : List (String × Json)} {inside : List Char}
    (distinct : (fields.map Prod.fst).Nodup) (stops : Stops startsNone inside)
    (read : takes (takeSeparated skipSpace skipSpace_le false '\x7d' (takeField (takeValue depth)))
      inside = some (fields, rest)) :
    takes (takeValue (depth + 1)) ('\x7b' :: inside) = some (.obj fields, rest) := by
  obtain ⟨less, found⟩ := exists_of_takes read
  unfold takes takeValue
  apply takes_shorter
  · rw [skipSpace_of_startsNone stops]
    split
    · cases stops
    · rw [found, Option.map_some, OrderedMap.entries_ofList distinct]
  · exact Nat.lt_succ_of_lt less

end Containers

theorem stops_compact {depth : Nat} {value : Json} (readable : Readable depth value) :
    value.compact.toList ≠ [] ∧ Stops startsNone value.compact.toList := by
  cases readable with
  | null => exact ⟨by decide, rfl⟩
  | bool held => cases held <;> exact ⟨by decide, rfl⟩
  | int least most =>
    rename_i value
    obtain ⟨c, more, shape, -⟩ := exists_head_intText value
    constructor
    · change (intText value).toList ≠ []
      rw [shape]
      exact List.cons_ne_nil c more
    · have stops := @stops_intText value noValue (by decide) []
      rwa [List.append_nil] at stops
  | str text => exact ⟨by simp [compact, quote], by simp [compact, quote]; rfl⟩
  | arr each => exact ⟨by simp [compact], by simp [compact]; rfl⟩
  | obj distinct each => exact ⟨by simp [compact], by simp [compact]; rfl⟩

theorem compactItems_eq_map (items : List Json) : compactItems items = items.map compact := by
  induction items with
  | nil => rfl
  | cons item rest ih => rw [compactItems, ih, List.map_cons]

theorem compactFields_eq_map (fields : List (String × Json)) :
    compactFields fields = fields.map fun field => quote field.1 ++ ":" ++ field.2.compact := by
  induction fields with
  | nil => rfl
  | cons field rest ih => rw [compactFields, ih, List.map_cons]

theorem toList_compact_arr (items : List Json) :
    (Json.arr items).compact.toList =
      '[' :: ([','].intercalate (items.map fun item => item.compact.toList) ++ [']']) := by
  simp [compact, compactItems_eq_map, String.toList_intercalate, Function.comp_def]

def fieldText (field : String × Json) : List Char :=
  (quote field.1).toList ++ ':' :: field.2.compact.toList

theorem toList_compact_obj (fields : List (String × Json)) :
    (Json.obj fields).compact.toList =
      '\x7b' :: ([','].intercalate (fields.map fieldText) ++ ['\x7d']) := by
  simp [compact, compactFields_eq_map, String.toList_intercalate, Function.comp_def]
  rfl

theorem stops_fieldText (field : String × Json) :
    fieldText field ≠ [] ∧ Stops startsNone (fieldText field) := by
  unfold fieldText
  rw [toList_quote_append]
  exact ⟨List.cons_ne_nil _ _, rfl⟩

theorem takes_compact {depth : Nat} {value : Json} (readable : Readable depth value)
    {rest : List Char} (stops : Stops continuesNumber rest) :
    takes (takeValue depth) (value.compact.toList ++ rest) = some (value, rest) := by
  have ended : ∀ closing, closing = ']' ∨ closing = '\x7d' → ∀ stop (rest : List Char),
      stop = ',' ∨ stop = closing → Stops continuesNumber (stop :: rest) := by
    rintro closing (rfl | rfl) stop rest (rfl | rfl) <;> rfl
  induction readable generalizing rest with
  | null => exact takes_scalar rfl takes_null
  | bool held => exact takes_scalar (by cases held <;> rfl) (takes_bool held)
  | int least most =>
    exact takes_scalar (stops_intText _ (by decide) rest) (takes_int least most stops)
  | str text =>
    refine takes_scalar ?_ (takes_str text)
    change Stops _ ((quote text).toList ++ rest)
    rw [toList_quote_append]
    rfl
  | @arr depth items each ih =>
    rw [toList_compact_arr, List.cons_append, List.append_assoc]
    by_cases empty : items = []
    · subst empty
      exact takes_arr_nil
    · have starts item (member : item ∈ items) := stops_compact (each item member)
      exact takes_arr (stops_separated empty starts _) (takes_separated empty starts (by decide)
        (by decide) rest fun item member stop rest stopped =>
          ih item member (ended ']' (.inl rfl) stop rest stopped))
  | @obj depth fields distinct each ih =>
    rw [toList_compact_obj, List.cons_append, List.append_assoc]
    by_cases empty : fields = []
    · subst empty
      exact takes_obj_nil
    · have starts field (_ : field ∈ fields) := stops_fieldText field
      refine takes_obj distinct (stops_separated empty starts _) (takes_separated empty starts
        (by decide) (by decide) rest ?_)
      intro field member stop rest stopped
      rw [fieldText, List.append_assoc, List.cons_append]
      obtain ⟨begun, visible⟩ := stops_compact (each field member)
      have solid : Stops isSpace (field.2.compact.toList ++ stop :: rest) :=
        stops_isSpace ((stops_append begun _).mpr visible)
      exact takes_field field.1 solid
        (ih field member (ended '\x7d' (.inr rfl) stop rest stopped))

theorem ofText?_of_takes {text : String} {value : Json}
    (read : takes (takeValue greatestDepth) (skipSpace text.toList) = some (value, [])) :
    ofText? text = some value := by
  obtain ⟨less, found⟩ := exists_of_takes read
  unfold ofText?
  rw [found]
  rfl

theorem ofText?_compact {value : Json} (readable : Readable greatestDepth value) :
    ofText? value.compact = some value := by
  have read := takes_compact readable stops_nil
  rw [List.append_nil] at read
  apply ofText?_of_takes
  rw [skipSpace_of_startsNone (stops_compact readable).2]
  exact read

end ContentQuery.Json
