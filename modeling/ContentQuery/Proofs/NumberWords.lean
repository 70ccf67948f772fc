import ContentQuery.Proofs.IntegerTexts
import ContentQuery.Proofs.LargeNumbers
import ContentQuery.Proofs.NestedTexts
import ContentQuery.Proofs.TermMatches

namespace ContentQuery
open ContentQuery.Filter

namespace Decimal

abbrev Digits := Filled Char.isDigit

inductive Sign where
  | bare
  | plus
  | minus
  deriving Repr, DecidableEq

namespace Sign

def chars : Sign → List Char
  | bare => []
  | plus => ['+']
  | minus => ['-']

def negative (sign : Sign) : Bool := sign == minus

end Sign

structure Exponent where
  mark : Char
  marked : mark = 'e' ∨ mark = 'E'
  sign : Sign
  digits : Digits

namespace Exponent

def chars (exponent : Exponent) : List Char :=
  exponent.mark :: (exponent.sign.chars ++ exponent.digits.chars)

def value (exponent : Exponent) : Int :=
  applySign exponent.sign.negative (digitsValue exponent.digits.chars)

theorem mark_apart (exponent : Exponent) :
    ¬ (exponent.mark.isDigit = true ∨ exponent.mark = '-' ∨ exponent.mark = '+') := by
  rcases exponent.marked with lower | upper
  · rw [lower]
    decide
  · rw [upper]
    decide

end Exponent

structure Literal where
  sign : Sign
  whole : Digits
  fraction : Option Digits
  exponent : Option Exponent

namespace Literal

def point : Option Digits → List Char
  | none => []
  | some digits => '.' :: digits.chars

def power : Option Exponent → List Char
  | none => []
  | some exponent => exponent.chars

def scale : Option Exponent → Int
  | none => 0
  | some exponent => exponent.value

def chars (literal : Literal) : List Char :=
  literal.sign.chars ++ (literal.whole.chars ++ (point literal.fraction ++ power literal.exponent))

def places (literal : Literal) : List Char :=
  match literal.fraction with
  | none => []
  | some digits => digits.chars

def decimal (literal : Literal) : Decimal :=
  ⟨digitsValue (literal.whole.chars ++ literal.places),
    scale literal.exponent - literal.places.length⟩

def integer (literal : Literal) : Int :=
  applySign literal.sign.negative (digitsValue literal.whole.chars)

end Literal

section Reading
variable (sign : Sign) (digits : Digits)

theorem Digits.eq_cons : ∃ c rest, digits.chars = c :: rest ∧ c.isDigit = true := by
  obtain ⟨c, rest, split⟩ := List.exists_cons_of_ne_nil digits.filled
  exact ⟨c, rest, split, digits.kept c (split ▸ List.mem_cons_self)⟩

theorem takeSign_chars (rest : List Char) :
    takeSign (sign.chars ++ (digits.chars ++ rest)) = (sign.negative, digits.chars ++ rest) := by
  obtain ⟨c, more, split, digit⟩ := Digits.eq_cons digits
  rw [split]
  cases sign with
  | plus | minus => rfl
  | bare =>
    change takeSign (c :: (more ++ rest)) = _
    unfold takeSign
    split
    · rename_i same
      cases same
      cases digit
    · rename_i same
      cases same
      cases digit
    · rfl

theorem integer?_chars :
    integer? (sign.chars ++ digits.chars) =
      some (applySign sign.negative (digitsValue digits.chars)) := by
  have read := takeSign_chars sign digits []
  rw [List.append_nil] at read
  have whole : isDigits digits.chars = true := by
    rw [isDigits, Bool.and_eq_true, List.all_eq_true]
    exact ⟨by simp [digits.filled], digits.kept⟩
  simp only [integer?, read, whole, if_true]

end Reading

namespace Literal
variable (literal : Literal)

theorem exponent?_power (exponent : Option Exponent) :
    exponent? (power exponent) = some (scale exponent) := by
  cases exponent with
  | none => rfl
  | some exponent =>
    refine (if_pos exponent.marked).trans ?_
    exact integer?_chars exponent.sign exponent.digits

theorem stops_power (exponent : Option Exponent) : Stops Char.isDigit (power exponent) := by
  cases exponent with
  | none => exact trivial
  | some exponent =>
    exact stops_cons (Bool.eq_false_iff.mpr fun digit => exponent.mark_apart (.inl digit)) _

theorem literal?_chars : literal? literal.chars = some (literal.sign.negative, literal.decimal) := by
  obtain ⟨sign, whole, fraction, exponent⟩ := literal
  have filled : whole.chars.isEmpty = false := by
    simpa using whole.filled
  have stops : Stops Char.isDigit (point fraction ++ power exponent) := by
    cases fraction with
    | none => exact stops_power exponent
    | some digits => exact stops_cons (by decide) _
  unfold literal? chars
  rw [takeSign_chars]
  simp only [whole.takeWhile_append stops, whole.dropWhile_append stops, filled, Bool.false_and]
  cases fraction with
  | none =>
    -- Without a point the digits that are taken behind it are none.
    have pointless : ∀ rest, power exponent ≠ '.' :: rest := by
      intro rest same
      have stopped := exponent?_power exponent
      rw [same] at stopped
      cases stopped
    simp only [point, List.nil_append, exponent?_power]
    rfl
  | some digits =>
    simp only [point, List.cons_append, digits.takeWhile_append (stops_power exponent),
      digits.dropWhile_append (stops_power exponent), exponent?_power]
    rfl

theorem integer?_of_whole (pointless : literal.fraction = none) (plain : literal.exponent = none) :
    integer? literal.chars = some literal.integer := by
  rw [chars, pointless, plain]
  change integer? (literal.sign.chars ++ (literal.whole.chars ++ ([] ++ []))) = _
  rw [List.append_nil, List.append_nil, integer?_chars]
  rfl

theorem integer?_of_exponent (scaled : literal.exponent ≠ none) : integer? literal.chars = none := by
  obtain ⟨exponent, found⟩ := Option.ne_none_iff_exists'.mp scaled
  have member : exponent.mark ∈ literal.chars := by
    simp [chars, found, power, Exponent.chars]
  exact integer?_of_other member exponent.mark_apart

theorem digit_or_mark : ∀ c ∈ literal.chars, c.isDigit = true ∨ c ∈ ['+', '-', 'e', 'E'] ∨
    c = '.' ∧ literal.fraction ≠ none := by
  have signs : ∀ sign : Sign, ∀ c ∈ sign.chars, c = '+' ∨ c = '-' := by
    intro sign
    cases sign <;> simp [Sign.chars]
  intro c member
  simp only [chars, List.mem_append] at member
  rcases member with sign | whole | fraction | exponent
  · rcases signs _ c sign with rfl | rfl <;> simp
  · exact .inl (literal.whole.kept c whole)
  · cases found : literal.fraction with
    | none =>
      rw [found] at fraction
      cases fraction
    | some digits =>
      rw [found] at fraction
      rcases List.mem_cons.mp fraction with rfl | digit
      · exact .inr (.inr ⟨rfl, Option.some_ne_none _⟩)
      · exact .inl (digits.kept c digit)
  · cases found : literal.exponent with
    | none =>
      rw [found] at exponent
      cases exponent
    | some power =>
      rw [found] at exponent
      rcases List.mem_cons.mp exponent with rfl | behind
      · rcases power.marked with mark | mark <;> simp [mark]
      · rcases List.mem_append.mp behind with sign | digit
        · rcases signs _ c sign with rfl | rfl <;> simp
        · exact .inl (power.digits.kept c digit)

theorem chars_ne_of_mem {c : Char} {word : List Char} (member : c ∈ word)
    (foreign : c.isDigit = false ∧ c ∉ ['+', '-', 'e', 'E'] ∧ c ≠ '.') : literal.chars ≠ word := by
  rintro rfl
  rcases literal.digit_or_mark c member with digit | mark | ⟨point, -⟩
  · rw [foreign.1] at digit
    cases digit
  · exact foreign.2.1 mark
  · exact foreign.2.2 point

theorem point_mem_iff : '.' ∈ literal.chars ↔ literal.fraction ≠ none := by
  constructor
  · intro member
    rcases literal.digit_or_mark '.' member with digit | mark | ⟨-, pointed⟩
    · cases digit
    · exact absurd mark (by decide)
    · exact pointed
  · intro pointed
    obtain ⟨digits, found⟩ := Option.ne_none_iff_exists'.mp pointed
    simp [chars, found, point]

end Literal
end Decimal

theorem Text.isAlphanumeric_of_mem {c : Char} {range : Nat × Nat} (listed : range ∈ alphanumericRanges)
    (within : range.1 ≤ c.toNat ∧ c.toNat ≤ range.2) : isAlphanumeric c = true :=
  (covers_iff alphanumericRanges_rising c.toNat).mpr ⟨range, listed, within⟩

theorem Text.isAlphanumeric_of_isDigit {c : Char} (digit : c.isDigit = true) :
    isAlphanumeric c = true :=
  @isAlphanumeric_of_mem c (0x30, 0x39) List.mem_cons_self (bounds_of_isDigit digit)

theorem isWordChar_of_mark : ∀ c ∈ ['+', '-', 'e', 'E', '.'], isWordChar c = true := by
  have upper : Text.isAlphanumeric 'E' = true :=
    @Text.isAlphanumeric_of_mem 'E' (0x41, 0x5a) (List.mem_cons_of_mem _ List.mem_cons_self)
      (by decide)
  have lower : Text.isAlphanumeric 'e' = true :=
    @Text.isAlphanumeric_of_mem 'e' (0x61, 0x7a)
      (List.mem_cons_of_mem _ (List.mem_cons_of_mem _ List.mem_cons_self)) (by decide)
  simp [isWordChar, upper, lower]

namespace Decimal.Literal
variable (literal : Literal)

def word : Filled isWordChar where
  chars := literal.chars
  kept := by
    intro c member
    rcases literal.digit_or_mark c member with digit | mark | ⟨rfl, -⟩
    · simp [isWordChar, Text.isAlphanumeric_of_isDigit digit]
    · exact isWordChar_of_mark c (List.mem_append_left ['.'] mark)
    · exact isWordChar_of_mark '.' (by decide)
  filled := by
    simp [chars, literal.whole.filled]

structure IsInteger : Prop where
  pointless : literal.fraction = none
  plain : literal.exponent = none
  signed : Json.leastSigned ≤ literal.integer ∧ literal.integer ≤ Json.greatestSigned

theorem wordValue_of_integer (whole : literal.IsInteger) :
    wordValue literal.chars = Json.int literal.integer := by
  unfold wordValue
  rw [literal.integer?_of_whole whole.pointless whole.plain, Option.filter_some,
    if_pos (by simpa using whole.signed)]

theorem wordValue_of_fraction (pointed : literal.fraction ≠ none) :
    wordValue literal.chars = doubleValue (literal.sign.negative, literal.decimal) := by
  rw [wordValue_of_point (literal.point_mem_iff.mpr pointed), literal.literal?_chars]

theorem wordValue_of_other (pointless : literal.fraction = none) (other : ¬ literal.IsInteger) :
    wordValue literal.chars = .str (String.ofList literal.chars) := by
  have unread : (integer? literal.chars).filter (fun value =>
      Json.leastSigned ≤ value && value ≤ Json.greatestSigned) = none := by
    by_cases plain : literal.exponent = none
    · rw [literal.integer?_of_whole pointless plain, Option.filter_some, if_neg]
      simpa using fun least most => other ⟨pointless, plain, least, most⟩
    · rw [literal.integer?_of_exponent plain]
      rfl
  have unlisted : ¬ literal.chars.contains '.' = true := fun listed =>
    literal.point_mem_iff.mp (List.contains_iff_mem.mp listed) pointless
  have untrue : literal.chars ≠ ['t', 'r', 'u', 'e'] :=
    literal.chars_ne_of_mem List.mem_cons_self (by decide)
  have unfalse : literal.chars ≠ ['f', 'a', 'l', 's', 'e'] :=
    literal.chars_ne_of_mem List.mem_cons_self (by decide)
  unfold wordValue
  rw [unread, if_neg unlisted]
  dsimp only
  rw [if_neg untrue, if_neg unfalse]

end Decimal.Literal

namespace Filter

namespace Operand

def item? : Operand → List Nat → Option Item
  | .single item, [] => some item
  | .list (.filled _ first more _), [index] => (first :: more.map Further.item)[index]?
  | _, _ => none

theorem at?_value {operand : Operand} {path : List Nat} {item : Item}
    (held : operand.item? path = some item) : operand.value.at? path = some item.value := by
  unfold item? at held
  split at held
  · cases held
    rfl
  · rename_i before first more after index
    change ((first.value :: more.map fun further => further.item.value)[index]?).bind some = _
    have values : (first.value :: more.map fun further => further.item.value) =
        (first :: more.map Further.item).map Item.value := by
      rw [List.map_cons, List.map_map]
      rfl
    rw [values, List.getElem?_map, held]
    rfl
  · cases held

end Operand

-- A filter text of any of the three kinds.
inductive Sentence where
  | plain (phrase : Phrase)
  | typed (phrase : MetaPhrase)
  | terms (phrase : TermPhrase)

namespace Sentence

def chars : Sentence → List Char
  | plain phrase => phrase.chars
  | typed phrase => phrase.chars
  | terms phrase => phrase.chars

def operand : Sentence → Operand
  | plain phrase => phrase.operation.operand
  | typed phrase => phrase.phrase.operation.operand
  | terms phrase =>
    match phrase.terms with
    | .compared operation => operation.operand
    | .given _ operand => operand

def read (text : String) : Sentence → Except QueryError Json
  | plain _ => (readComparison text).map Comparison.value
  | typed _ => (readMetaComparison text).map fun comparison => comparison.value
  | terms _ => (readTermMatch text).map TermMatch.terms

theorem read_of_written {sentence : Sentence} {text : String}
    (written : sentence.chars = Text.trimChars text.toList) :
    sentence.read text = .ok sentence.operand.value := by
  cases sentence with
  | plain phrase =>
    have found := readComparison_eq_ok_iff.mpr ⟨phrase, written, rfl⟩
    exact congrArg (Except.map Comparison.value) found
  | typed phrase =>
    have found := readMetaComparison_eq_ok_iff.mpr ⟨phrase, written, rfl⟩
    exact congrArg (Except.map fun comparison => comparison.value) found
  | terms phrase =>
    have found := readTermMatch_eq_ok_iff.mpr ⟨phrase, written, rfl⟩
    have same : phrase.termMatch.terms = (Sentence.terms phrase).operand.value := by
      change phrase.terms.value = (match phrase.terms with
        | .compared operation => operation.operand
        | .given _ operand => operand).value
      cases phrase.terms <;> rfl
    exact same ▸ congrArg (Except.map TermMatch.terms) found

end Sentence

-- A number that stands in a filter text as its value, or in the list that is its
-- value. Digits alone are an integer if 64 bits hold it, and a word with a point
-- is the nearest double. Without a point nothing else is a number: an exponent
-- alone does not make one, nor do more digits than fit, and the word is a text.
theorem number_words_read (literal : Decimal.Literal) {sentence : Sentence} {text : String}
    {path : List Nat} (written : sentence.chars = Text.trimChars text.toList)
    (held : sentence.operand.item? path = some (.word literal.word)) :
    ∃ value, sentence.read text = .ok value ∧
      (literal.IsInteger → value.at? path = some (Json.int literal.integer)) ∧
      (literal.fraction ≠ none → ¬ literal.decimal.Reaches Double.rangeEnd →
        ∃ double, Double.ofDecimal literal.sign.negative literal.decimal.significand
            literal.decimal.exponent = some double ∧
          value.at? path = some (.num (.real double))) ∧
      (literal.fraction = none → ¬ literal.IsInteger →
        value.at? path = some (.str (String.ofList literal.chars))) := by
  have found : sentence.operand.value.at? path = some (wordValue literal.chars) :=
    Operand.at?_value held
  refine ⟨_, Sentence.read_of_written written, ?_, ?_, ?_⟩
  · intro whole
    rw [found, literal.wordValue_of_integer whole]
  · intro pointed near
    rw [← Double.ofDecimal_eq_none_iff literal.sign.negative] at near
    obtain ⟨double, rounded⟩ := Option.ne_none_iff_exists'.mp near
    refine ⟨double, rounded, ?_⟩
    rw [found, literal.wordValue_of_fraction pointed, doubleValue, rounded]
  · intro pointless other
    rw [found, literal.wordValue_of_other pointless other]

def minusSeven : Decimal.Literal :=
  ⟨.minus, ⟨⟨['7'], List.all_eq_true.mp rfl⟩, List.cons_ne_nil _ _⟩, none, none⟩

def withPoint : Decimal.Literal :=
  ⟨.bare, ⟨⟨['2'], List.all_eq_true.mp rfl⟩, List.cons_ne_nil _ _⟩,
    some ⟨⟨['5'], List.all_eq_true.mp rfl⟩, List.cons_ne_nil _ _⟩,
    some ⟨'e', .inl rfl, .bare, ⟨⟨['3'], List.all_eq_true.mp rfl⟩, List.cons_ne_nil _ _⟩⟩⟩

def withoutPoint : Decimal.Literal :=
  ⟨.bare, ⟨⟨['1'], List.all_eq_true.mp rfl⟩, List.cons_ne_nil _ _⟩, none,
    some ⟨'e', .inl rfl, .bare, ⟨⟨['5'], List.all_eq_true.mp rfl⟩, List.cons_ne_nil _ _⟩⟩⟩

def prices : Phrase where
  target := ⟨⟨['p', 'r', 'i', 'c', 'e'], List.all_eq_true.mp rfl⟩, List.cons_ne_nil _ _⟩
  operation := {
    gap := ⟨[' '], List.all_eq_true.mp rfl⟩
    operator := .word ['I', 'N'] (by decide)
    space := ⟨[' '], List.all_eq_true.mp rfl⟩
    operand := .list (.filled ⟨[], nofun⟩ (.word minusSeven.word)
      [⟨⟨[], nofun⟩, ⟨[' '], List.all_eq_true.mp rfl⟩, .word withPoint.word⟩,
        ⟨⟨[], nofun⟩, ⟨[' '], List.all_eq_true.mp rfl⟩, .word withoutPoint.word⟩]
      ⟨[], nofun⟩)
    ended := rfl }
  maximal := rfl

theorem prices_listed :
    ∃ value, (readComparison "price IN [-7, 2.5e3, 1e5]").map Comparison.value = .ok value ∧
      value.at? [0] = some (Json.int (-7)) ∧
      (∃ double, value.at? [1] = some (.num (.real double))) ∧
      value.at? [2] = some (.str "1e5") := by
  have written : (Sentence.plain prices).chars =
      Text.trimChars "price IN [-7, 2.5e3, 1e5]".toList := rfl
  obtain ⟨value, read, whole, -⟩ := @number_words_read minusSeven _ _ [0] written rfl
  obtain ⟨second, again, -, real, -⟩ := @number_words_read withPoint _ _ [1] written rfl
  obtain ⟨third, further, -, -, kept⟩ := @number_words_read withoutPoint _ _ [2] written rfl
  have seconds : second = value := Except.ok.inj (again.symm.trans read)
  have thirds : third = value := Except.ok.inj (further.symm.trans read)
  subst seconds thirds
  have near : ¬ withPoint.decimal.Reaches Double.rangeEnd := by
    rw [← Double.ofDecimal_eq_none_iff false]
    decide
  obtain ⟨double, -, stands⟩ := real (Option.some_ne_none _) near
  refine ⟨_, read, whole ⟨rfl, rfl, by decide⟩, ⟨double, stands⟩, kept rfl ?_⟩
  intro integer
  cases integer.plain

theorem exponent_read_as_text :
    ∃ (literal : Decimal.Literal) (comparison : Comparison),
      literal.chars = ['1', 'e', '5'] ∧ readComparison "price=1e5" = .ok comparison ∧
      comparison.value = .str "1e5" :=
  ⟨withoutPoint, ⟨"price", "=", .str "1e5"⟩, rfl, rfl, rfl⟩

end Filter
end ContentQuery
