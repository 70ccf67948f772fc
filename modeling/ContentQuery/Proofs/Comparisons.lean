import ContentQuery.Proofs.FilterOperations

namespace ContentQuery.Filter
open Text

section Trimming

theorem blank_alphanumeric_apart : ∀ blank ∈ blankRanges, ∀ range ∈ alphanumericRanges,
    blank.2 < range.1 ∨ range.2 < blank.1 := by
  decide +kernel

theorem isAlphanumeric_of_isBlank {c : Char} (blank : isBlank c = true) : isAlphanumeric c = false := by
  apply Bool.eq_false_iff.mpr
  intro alphanumeric
  obtain ⟨gap, member, least, most⟩ := (covers_iff blankRanges_rising c.toNat).mp blank
  obtain ⟨range, known, low, high⟩ := (covers_iff alphanumericRanges_rising c.toNat).mp alphanumeric
  rcases blank_alphanumeric_apart gap member range known with ahead | behind
  · omega
  · omega

theorem isWordChar_of_isBlank (c : Char) (blank : isBlank c = true) : isWordChar c = false := by
  have apart : ∀ mark : Char, isBlank mark = false → c ≠ mark := by
    rintro mark kept rfl
    rw [blank] at kept
    cases kept
  simp [isWordChar, isAlphanumeric_of_isBlank blank, apart '_' (by decide), apart '-' (by decide),
    apart '.' (by decide), apart '/' (by decide), apart '@' (by decide), apart '+' (by decide)]

structure Edged (text : List Char) : Prop where
  filled : text ≠ []
  front : Stops isBlank text
  back : Stops isBlank text.reverse

theorem Edged.join {first last : List Char} (starts : Edged first) (middle : List Char)
    (ends : Edged last) : Edged (first ++ (middle ++ last)) := by
  refine ⟨by simp [starts.filled], (stops_append starts.filled _).mpr starts.front, ?_⟩
  have turned : last.reverse ≠ [] := by
    simpa using ends.filled
  rw [← List.append_assoc, List.reverse_append]
  exact (stops_append turned _).mpr ends.back

theorem edged_of_unblank {text : List Char} (filled : text ≠ [])
    (unblank : ∀ c ∈ text, isBlank c = false) : Edged text := by
  have stops : ∀ other : List Char, (∀ c ∈ other, c ∈ text) → Stops isBlank other := by
    intro other within
    cases other with
    | nil => trivial
    | cons c more => exact unblank c (within c List.mem_cons_self)
  exact ⟨filled, stops text fun _ member => member, stops text.reverse fun _ => List.mem_reverse.mp⟩

theorem edged_of_run {keep : Char → Bool} (run : Filled keep)
    (within : ∀ c, keep c = true → isWordChar c = true) : Edged run.chars := by
  apply edged_of_unblank run.filled
  intro c member
  have word := within c (run.kept c member)
  exact Bool.eq_false_iff.mpr fun blank => by simp [isWordChar_of_isBlank c blank] at word

theorem edged_between {first last : Char} (starts : isBlank first = false) (middle : List Char)
    (ends : isBlank last = false) : Edged (first :: (middle ++ [last])) :=
  Edged.join (edged_of_unblank (List.cons_ne_nil first []) (by simpa using starts)) middle
    (edged_of_unblank (List.cons_ne_nil last []) (by simpa using ends))

theorem Identifier.edged (identifier : Identifier) : Edged identifier.chars :=
  edged_of_run identifier fun _ => isWordChar_of_isIdentifierChar

theorem Operand.edged (operand : Operand) : Edged operand.chars := by
  cases operand with
  | list listing =>
    cases listing with
    | bare inner => exact edged_between (by decide) inner.chars (by decide)
    | filled before first more after =>
      have whole : (Listing.filled before first more after).chars =
          '[' :: (before.chars ++ first.chars ++ more.flatMap Further.chars ++ after.chars ++ [']']) := by
        simp [Listing.chars]
      change Edged (Listing.filled before first more after).chars
      rw [whole]
      exact edged_between (by decide) _ (by decide)
  | single item =>
    cases item with
    | quoted quote inner =>
      have mark : isBlank quote.mark = false := by
        cases quote <;> decide
      exact edged_between mark inner.chars mark
    | word run => exact edged_of_run run fun _ => id

theorem trimChars_append (before after : Run isBlank) {text : List Char} (edged : Edged text) :
    trimChars (before.chars ++ (text ++ after.chars)) = text := by
  have ahead : Stops isBlank (text ++ after.chars) := (stops_append edged.filled _).mpr edged.front
  have behind : (after.chars.reverse ++ text.reverse).dropWhile isBlank = text.reverse :=
    Run.dropWhile_append ⟨after.chars.reverse, fun c member =>
      after.kept c (List.mem_reverse.mp member)⟩ edged.back
  rw [trimChars, before.dropWhile_append ahead, List.reverse_append, behind, List.reverse_reverse]

theorem whole_eq_ok_iff {α : Type} {read : List Char → Read α} {text : List Char} {value : α} :
    whole read text = .ok value ↔ read (trimChars text) = .ok (value, []) := by
  cases found : read (trimChars text) with
  | error stop => simp [whole, found]
  | ok pair =>
    obtain ⟨held, rest⟩ := pair
    cases rest <;> simp [whole, found]

end Trimming

section Phrases
variable {rest left : List Char}

theorem takeIdentifier_chars_append (identifier : Identifier) (stops : Stops isIdentifierChar rest) :
    takeIdentifier (identifier.chars ++ rest) = .ok (String.ofList identifier.chars, rest) := by
  simp [takeIdentifier, takeRun_chars_append identifier stops, Except.map]

theorem exists_identifier_of_takeIdentifier {text : List Char} {name : String}
    (read : takeIdentifier text = .ok (name, rest)) :
    ∃ identifier : Identifier, String.ofList identifier.chars = name ∧
      text = identifier.chars ++ rest ∧ Stops isIdentifierChar rest := by
  unfold takeIdentifier at read
  cases taken : takeRun isIdentifierChar text with
  | error stop => simp [taken, Except.map] at read
  | ok pair =>
    obtain ⟨run, behind⟩ := pair
    simp only [taken, Except.map, Except.ok.injEq, Prod.mk.injEq] at read
    obtain ⟨rfl, rfl⟩ := read
    obtain ⟨identifier, rfl, whole, stops⟩ := exists_run_of_takeRun taken
    exact ⟨identifier, rfl, whole, stops⟩

theorem Operation.chars_ne_nil (operation : Operation) : operation.chars ≠ [] := by
  simp [Operation.chars, operation.operand.chars_ne_nil]

theorem Phrase.stops_target (phrase : Phrase) (rest : List Char) :
    Stops isIdentifierChar (phrase.operation.chars ++ rest) :=
  (stops_append phrase.operation.chars_ne_nil rest).mpr phrase.maximal

theorem takeComparison_chars_append (phrase : Phrase) (stops : Stops isWordChar rest) :
    takeComparison (phrase.chars ++ rest) = .ok (phrase.comparison, rest) := by
  have target := takeIdentifier_chars_append phrase.target (phrase.stops_target rest)
  have operation := takeOperation_chars_append phrase.operation stops
  simp [takeComparison, Phrase.chars, target, operation, Phrase.comparison, bind, Except.bind, pure,
    Except.pure]

theorem exists_phrase_of_takeComparison {text : List Char} {comparison : Comparison}
    (read : takeComparison text = .ok (comparison, rest)) :
    ∃ phrase : Phrase, phrase.comparison = comparison ∧ text = phrase.chars ++ rest := by
  cases named : takeIdentifier text with
  | error stop => simp [takeComparison, named, bind, Except.bind] at read
  | ok pair =>
    obtain ⟨target, behind⟩ := pair
    cases compared : takeOperation behind with
    | error stop => simp [takeComparison, named, compared, bind, Except.bind] at read
    | ok pair =>
      obtain ⟨⟨operator, value⟩, after⟩ := pair
      simp only [takeComparison, named, compared, bind, Except.bind, pure, Except.pure,
        Except.ok.injEq, Prod.mk.injEq] at read
      obtain ⟨rfl, rfl⟩ := read
      obtain ⟨identifier, rfl, whole, stops⟩ := exists_identifier_of_takeIdentifier named
      obtain ⟨operation, rfl, rfl, continued⟩ := exists_operation_of_takeOperation compared
      rw [continued, stops_append operation.chars_ne_nil] at stops
      refine ⟨⟨identifier, operation, stops⟩, rfl, ?_⟩
      rw [whole, continued]
      simp [Phrase.chars]

theorem Phrase.append_inj {first second : Phrase} (stops : Stops isWordChar rest)
    (stopped : Stops isWordChar left) (same : first.chars ++ rest = second.chars ++ left) :
    first = second ∧ rest = left := by
  simp only [Phrase.chars, List.append_assoc] at same
  obtain ⟨targets, operations⟩ := Filled.append_inj (first.stops_target rest)
    (second.stops_target left) same
  obtain ⟨operation, behind⟩ := Operation.append_inj stops stopped operations
  cases first
  cases second
  cases targets
  cases operation
  exact ⟨rfl, behind⟩

theorem Phrase.chars_injective {first second : Phrase} (same : first.chars = second.chars) :
    first = second := by
  have ended : first.chars ++ [] = second.chars ++ [] := by
    rw [same]
  exact (Phrase.append_inj stops_nil stops_nil ended).1

theorem Phrase.edged (phrase : Phrase) : Edged phrase.chars := by
  have whole : phrase.chars = phrase.target.chars ++ ((phrase.operation.gap.chars ++
      phrase.operation.operator.chars ++ phrase.operation.space.chars) ++
        phrase.operation.operand.chars) := by
    simp [Phrase.chars, Operation.chars]
  rw [whole]
  exact (Identifier.edged phrase.target).join _ phrase.operation.operand.edged

end Phrases

section MetaPhrases
variable {rest left : List Char}

theorem takeComparator_suffix (comparator : Option Identifier) :
    takeComparator (MetaPhrase.suffix comparator) =
      (comparator.map fun comparator => String.ofList comparator.chars, []) := by
  cases comparator with
  | none => rfl
  | some comparator =>
    have read := takeIdentifier_chars_append comparator stops_nil
    rw [List.append_nil] at read
    simp [MetaPhrase.suffix, takeComparator, read]

theorem exists_suffix_of_takeComparator {text : List Char} {comparator : Option String}
    (read : takeComparator text = (comparator, rest)) :
    ∃ written : Option Identifier,
      (written.map fun comparator => String.ofList comparator.chars) = comparator ∧
        text = MetaPhrase.suffix written ++ rest := by
  unfold takeComparator at read
  split at read
  · rename_i behind
    split at read
    · rename_i name after named
      cases read
      obtain ⟨identifier, rfl, whole, _⟩ := exists_identifier_of_takeIdentifier named
      refine ⟨some identifier, rfl, ?_⟩
      rw [whole]
      rfl
    · cases read
      exact ⟨none, rfl, rfl⟩
  · cases read
    exact ⟨none, rfl, rfl⟩

theorem stops_suffix (comparator : Option Identifier) :
    Stops isWordChar (MetaPhrase.suffix comparator) := by
  cases comparator with
  | none => trivial
  | some comparator => exact stops_cons (by decide) _

theorem suffix_injective {first second : Option Identifier}
    (same : MetaPhrase.suffix first = MetaPhrase.suffix second) : first = second := by
  cases first with
  | none =>
    cases second with
    | none => rfl
    | some comparator => cases same
  | some comparator =>
    cases second with
    | none => cases same
    | some other =>
      have chars : comparator.chars = other.chars := (List.cons.inj (List.cons.inj same).2).2
      exact congrArg some (Filled.ext chars)

theorem takeMetaComparison_chars (written : MetaPhrase) :
    takeMetaComparison written.chars = .ok (written.comparison, []) := by
  have comparison := takeComparison_chars_append written.phrase (stops_suffix written.comparator)
  simp [takeMetaComparison, MetaPhrase.chars, comparison, takeComparator_suffix,
    MetaPhrase.comparison, bind, Except.bind, pure, Except.pure]

theorem exists_metaPhrase_of_takeMetaComparison {text : List Char} {comparison : MetaComparison}
    (read : takeMetaComparison text = .ok (comparison, rest)) :
    ∃ written : MetaPhrase, written.comparison = comparison ∧ text = written.chars ++ rest := by
  cases compared : takeComparison text with
  | error stop => simp [takeMetaComparison, compared, bind, Except.bind] at read
  | ok pair =>
    obtain ⟨plain, behind⟩ := pair
    simp only [takeMetaComparison, compared, bind, Except.bind, pure, Except.pure, Except.ok.injEq,
      Prod.mk.injEq] at read
    obtain ⟨rfl, ended⟩ := read
    obtain ⟨phrase, rfl, whole⟩ := exists_phrase_of_takeComparison compared
    have named : takeComparator behind = ((takeComparator behind).1, rest) := Prod.ext rfl ended
    obtain ⟨comparator, named, suffix⟩ := exists_suffix_of_takeComparator named
    refine ⟨⟨phrase, comparator⟩, ?_, ?_⟩
    · simp [MetaPhrase.comparison, named]
    · rw [whole, suffix, MetaPhrase.chars, List.append_assoc]

theorem MetaPhrase.chars_injective {first second : MetaPhrase} (same : first.chars = second.chars) :
    first = second := by
  obtain ⟨phrases, suffixes⟩ := Phrase.append_inj (stops_suffix first.comparator)
    (stops_suffix second.comparator) same
  have comparators := suffix_injective suffixes
  cases first
  cases second
  cases phrases
  cases comparators
  rfl

theorem MetaPhrase.edged (written : MetaPhrase) : Edged written.chars := by
  obtain ⟨phrase, comparator⟩ := written
  cases comparator with
  | none =>
    have whole : MetaPhrase.chars ⟨phrase, none⟩ = phrase.chars := List.append_nil _
    rw [whole]
    exact phrase.edged
  | some comparator => exact phrase.edged.join [':', ':'] (Identifier.edged comparator)

end MetaPhrases

theorem readComparison_eq_ok_iff {text : String} {comparison : Comparison} :
    readComparison text = .ok comparison ↔
      ∃ phrase : Phrase, phrase.chars = trimChars text.toList ∧ phrase.comparison = comparison := by
  rw [readComparison, whole_eq_ok_iff]
  constructor
  · intro read
    obtain ⟨phrase, denoted, written⟩ := exists_phrase_of_takeComparison read
    exact ⟨phrase, by rw [written, List.append_nil], denoted⟩
  · rintro ⟨phrase, written, rfl⟩
    rw [← written, ← takeComparison_chars_append phrase stops_nil, List.append_nil]

theorem readMetaComparison_eq_ok_iff {text : String} {comparison : MetaComparison} :
    readMetaComparison text = .ok comparison ↔
      ∃ written : MetaPhrase, written.chars = trimChars text.toList ∧
        written.comparison = comparison := by
  rw [readMetaComparison, whole_eq_ok_iff]
  constructor
  · intro read
    obtain ⟨written, denoted, whole⟩ := exists_metaPhrase_of_takeMetaComparison read
    exact ⟨written, by rw [whole, List.append_nil], denoted⟩
  · rintro ⟨written, whole, rfl⟩
    rw [← whole, takeMetaComparison_chars]

end ContentQuery.Filter
