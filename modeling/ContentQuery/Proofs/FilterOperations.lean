import ContentQuery.Proofs.FilterOperands

namespace ContentQuery.Filter
open Text

section Tokens

theorem eq_of_toUpper_eq {c t : Char} (same : c.toUpper = t) (plain : t.isUpper = false) : c = t := by
  unfold Char.toUpper at same
  split at same
  · rename_i lower
    subst same
    have outside := of_decide_eq_false plain
    simp [UInt32.le_iff_toNat_le] at outside lower ⊢
    omega
  · exact same

theorem after?_eq_some_iff {token text rest : List Char} :
    after? token text = some rest ↔
      ∃ letters, letters.map Char.toUpper = token ∧ text = letters ++ rest := by
  induction token generalizing text with
  | nil => simp [after?]
  | cons t token ih =>
    cases text with
    | nil =>
      constructor
      · intro never
        cases never
      · rintro ⟨letters, spelled, whole⟩
        obtain ⟨rfl, _⟩ := List.append_eq_nil_iff.mp whole.symm
        cases spelled
    | cons c text =>
      by_cases same : c.toUpper = t
      · simp only [after?, same, if_true, ih]
        constructor
        · rintro ⟨letters, rfl, rfl⟩
          exact ⟨c :: letters, by simp [same], rfl⟩
        · rintro ⟨letters, spelled, whole⟩
          obtain ⟨d, more, rfl, _, others⟩ := List.map_eq_cons_iff.mp spelled
          exact ⟨more, others, (List.cons.inj whole).2⟩
      · simp only [after?, same, if_false]
        constructor
        · intro never
          cases never
        · rintro ⟨letters, spelled, whole⟩
          obtain ⟨d, more, rfl, first, _⟩ := List.map_eq_cons_iff.mp spelled
          obtain ⟨rfl, _⟩ := List.cons.inj whole
          exact absurd first same

theorem mem_of_takeToken {tokens : List (List Char)} {token text rest : List Char}
    (taken : takeToken tokens text = some (token, rest)) :
    token ∈ tokens ∧ after? token text = some rest := by
  obtain ⟨other, member, found⟩ := List.exists_of_findSome?_eq_some taken
  obtain ⟨left, behind, same⟩ := Option.map_eq_some_iff.mp found
  cases same
  exact ⟨member, behind⟩

theorem words_apart : ∀ word ∈ words, ∀ other ∈ words, word <+: other → word = other := by
  decide

-- No word starts with another, so the order in which they are tried is free.
theorem takeToken_words {word text rest : List Char} (known : word ∈ words)
    (behind : after? word text = some rest) : takeToken words text = some (word, rest) := by
  cases taken : takeToken words text with
  | none =>
    have missing := List.findSome?_eq_none_iff.mp taken word known
    simp [behind] at missing
  | some pair =>
    obtain ⟨other, left⟩ := pair
    obtain ⟨member, found⟩ := mem_of_takeToken taken
    obtain ⟨letters, spelled, whole⟩ := after?_eq_some_iff.mp behind
    obtain ⟨others, named, same⟩ := after?_eq_some_iff.mp found
    have ahead : word <+: text.map Char.toUpper := ⟨rest.map Char.toUpper, by simp [whole, spelled]⟩
    have along : other <+: text.map Char.toUpper := ⟨left.map Char.toUpper, by simp [same, named]⟩
    have equal : other = word := by
      rcases List.prefix_or_prefix_of_prefix ahead along with starts | starts
      · exact (words_apart word known other member starts).symm
      · exact words_apart other member word known starts
    subst equal
    rw [behind] at found
    cases found
    rfl

theorem symbols_plain : ∀ symbol ∈ symbols, ∀ c ∈ symbol, c.isUpper = false ∧ c.toUpper = c := by
  have checked : (symbols.all fun symbol => symbol.all fun c => !c.isUpper && c.toUpper == c) =
      true := by
    decide
  intro symbol known c member
  simpa using List.all_eq_true.mp (List.all_eq_true.mp checked symbol known) c member

theorem map_toUpper_symbol {symbol : List Char} (known : symbol ∈ symbols) :
    symbol.map Char.toUpper = symbol := by
  rw [List.map_congr_left fun c member => (symbols_plain symbol known c member).2, List.map_id']

theorem eq_of_map_toUpper_symbol {letters symbol : List Char} (known : symbol ∈ symbols)
    (spelled : letters.map Char.toUpper = symbol) : letters = symbol := by
  have plain : ∀ c ∈ letters, c.toUpper = c := by
    intro c member
    have upper : c.toUpper ∈ symbol := spelled ▸ List.mem_map_of_mem member
    exact (eq_of_toUpper_eq rfl (symbols_plain symbol known _ upper).1).symm
  rw [← spelled, List.map_congr_left plain, List.map_id']

end Tokens

section Operators
variable {text rest left : List Char}

theorem takeToken_symbols {symbol : List Char} (known : symbol ∈ symbols)
    (stops : Stops (· == '=') rest) : takeToken symbols (symbol ++ rest) = some (symbol, rest) := by
  have longer : after? ['='] rest = none := by
    cases rest with
    | nil => rfl
    | cons c more =>
      have apart : c.toUpper ≠ '=' := fun same => by
        have equal := eq_of_toUpper_eq same (by decide)
        simp [Stops, equal] at stops
      simp [after?, apart]
  simp only [symbols, List.mem_cons, List.not_mem_nil, or_false] at known
  rcases known with rfl | rfl | rfl | rfl | rfl | rfl <;>
    simp [takeToken, symbols, after?, longer]

theorem words_upper : ∀ word ∈ words, word.head?.any Char.isUpper = true := by
  decide

theorem takeToken_symbols_of_letter {c : Char} (letter : c.toUpper.isUpper = true) :
    takeToken symbols (c :: text) = none := by
  have apart : ∀ t : Char, t.isUpper = false → c.toUpper ≠ t := by
    rintro t plain rfl
    rw [letter] at plain
    cases plain
  simp [takeToken, symbols, after?, apart '>' (by decide), apart '<' (by decide),
    apart '!' (by decide), apart '=' (by decide)]

theorem takeToken_symbols_of_word {letters : List Char} (known : letters.map Char.toUpper ∈ words) :
    takeToken symbols (letters ++ rest) = none := by
  have upper := words_upper _ known
  cases letters with
  | nil => cases upper
  | cons c more =>
    simp only [List.map_cons, List.head?_cons, Option.any_some] at upper
    exact takeToken_symbols_of_letter upper

theorem takeOperator_chars_append (operator : Operator) (ended : operator.Ends rest)
    (stops : Stops (· == '=') rest) :
    takeOperator (operator.chars ++ rest) = .ok (operator.name, rest) := by
  cases operator with
  | symbol token known =>
    simp [takeOperator, Operator.chars, takeToken_symbols known stops, Operator.name,
      map_toUpper_symbol known]
  | word letters known =>
    have ended : endsWord rest = true := ended
    have behind := after?_eq_some_iff.mpr ⟨letters, rfl, (rfl : letters ++ rest = letters ++ rest)⟩
    simp [takeOperator, Operator.chars, takeToken_symbols_of_word known,
      takeToken_words known behind, ended, Operator.name]

theorem exists_operator_of_takeOperator {name : String}
    (read : takeOperator text = .ok (name, rest)) :
    ∃ operator : Operator, operator.name = name ∧ text = operator.chars ++ rest ∧
      operator.Ends rest := by
  unfold takeOperator at read
  split at read
  · rename_i symbol behind taken
    cases read
    obtain ⟨known, found⟩ := mem_of_takeToken taken
    obtain ⟨letters, spelled, whole⟩ := after?_eq_some_iff.mp found
    have same := eq_of_map_toUpper_symbol known spelled
    subst same
    exact ⟨.symbol letters known, congrArg String.ofList spelled, whole, trivial⟩
  · split at read
    · cases read
    · rename_i word behind taken
      obtain ⟨known, found⟩ := mem_of_takeToken taken
      obtain ⟨letters, rfl, whole⟩ := after?_eq_some_iff.mp found
      split at read
      · rename_i ended
        cases read
        exact ⟨.word letters known, rfl, whole, ended⟩
      · cases read

theorem Operator.chars_injective {first second : Operator} (same : first.chars = second.chars) :
    first = second := by
  have apart : ∀ {token letters : List Char}, token ∈ symbols →
      letters.map Char.toUpper ∈ words → token ≠ letters := by
    rintro token letters known named rfl
    have symbol := takeToken_symbols known stops_nil
    rw [takeToken_symbols_of_word named] at symbol
    cases symbol
  cases first with
  | symbol token known =>
    cases second with
    | symbol other also =>
      have same : token = other := same
      subst same
      rfl
    | word letters named => exact absurd same (apart known named)
  | word letters named =>
    cases second with
    | symbol token known => exact absurd same.symm (apart known named)
    | word others also =>
      have same : letters = others := same
      subst same
      rfl

theorem Operator.append_inj {first second : Operator} (ended : first.Ends rest)
    (stops : Stops (· == '=') rest) (done : second.Ends left) (stopped : Stops (· == '=') left)
    (same : first.chars ++ rest = second.chars ++ left) : first = second ∧ rest = left := by
  have read := takeOperator_chars_append first ended stops
  rw [same, takeOperator_chars_append second done stopped] at read
  have behind : left = rest := congrArg Prod.snd (Except.ok.inj read)
  subst behind
  exact ⟨Operator.chars_injective (List.append_cancel_right same), rfl⟩

end Operators

section Operations
variable {rest left : List Char}

def startsOperator (c : Char) : Bool :=
  c.toUpper.isUpper || c == '>' || c == '<' || c == '!' || c == '='

theorem startsOperator_of_isSpace (c : Char) (space : isSpace c = true) : startsOperator c = false := by
  simp only [isSpace, Bool.or_eq_true, beq_iff_eq] at space
  rcases space with ((rfl | rfl) | rfl) | rfl <;> decide

theorem Operator.exists_head (operator : Operator) :
    ∃ c more, operator.chars = c :: more ∧ startsOperator c = true := by
  cases operator with
  | symbol token known =>
    simp only [symbols, List.mem_cons, List.not_mem_nil, or_false] at known
    rcases known with rfl | rfl | rfl | rfl | rfl | rfl <;> exact ⟨_, _, rfl, by decide⟩
  | word letters known =>
    have upper := words_upper _ known
    cases letters with
    | nil => cases upper
    | cons c more =>
      simp only [List.map_cons, List.head?_cons, Option.any_some] at upper
      exact ⟨c, more, rfl, by simp [startsOperator, upper]⟩

theorem Operator.stops_isSpace (operator : Operator) (rest : List Char) :
    Stops isSpace (operator.chars ++ rest) := by
  obtain ⟨c, more, head, starts⟩ := operator.exists_head
  rw [head]
  exact Bool.eq_false_iff.mpr fun space => by simp [startsOperator_of_isSpace c space] at starts

theorem endsWord_append {front : List Char} (filled : front ≠ []) (rest : List Char) :
    endsWord (front ++ rest) = endsWord front := by
  cases front with
  | nil => exact absurd rfl filled
  | cons c more => rfl

theorem Operator.ends_append (operator : Operator) {front : List Char} (filled : front ≠ [])
    (rest : List Char) : operator.Ends (front ++ rest) ↔ operator.Ends front := by
  cases operator with
  | symbol token known => exact Iff.rfl
  | word letters known =>
    change endsWord (front ++ rest) = true ↔ endsWord front = true
    rw [endsWord_append filled]

theorem Operand.chars_ne_nil (operand : Operand) : operand.chars ≠ [] := by
  obtain ⟨c, more, head, _⟩ := operand.exists_head
  simp [head]

theorem Operation.ended_append (operation : Operation) (rest : List Char) :
    operation.operator.Ends (operation.space.chars ++ (operation.operand.chars ++ rest)) := by
  rw [← List.append_assoc, Operator.ends_append _ (by simp [operation.operand.chars_ne_nil])]
  exact operation.ended

theorem Operand.stops_equals (space : Spacing) (operand : Operand) (rest : List Char) :
    Stops (· == '=') (space.chars ++ (operand.chars ++ rest)) := by
  refine stops_spacing space ?_ (operand.stops_append ?_ rest)
  · intro c spaced
    exact beq_eq_false_iff_ne.mpr fun same => absurd spaced (by simp [same, isSpace])
  · intro c same
    rw [beq_iff_eq.mp same]
    decide

theorem takeOperation_chars_append (operation : Operation) (stops : Stops isWordChar rest) :
    takeOperation (operation.chars ++ rest) =
      .ok ((operation.operator.name, operation.operand.value), rest) := by
  have opened := skipSpace_append operation.gap (operation.operator.stops_isSpace
    (operation.space.chars ++ (operation.operand.chars ++ rest)))
  have operator := takeOperator_chars_append operation.operator (operation.ended_append rest)
    (operation.operand.stops_equals operation.space rest)
  have value := takeValue_chars_append operation.space operation.operand stops
  simp [takeOperation, Operation.chars, opened, operator, value, bind, Except.bind, pure, Except.pure]

theorem exists_operation_of_takeOperation {text : List Char} {name : String} {value : Json}
    (read : takeOperation text = .ok ((name, value), rest)) :
    ∃ operation : Operation, operation.operator.name = name ∧ operation.operand.value = value ∧
      text = operation.chars ++ rest := by
  obtain ⟨gap, start, _⟩ := exists_spacing text
  cases taken : takeOperator (skipSpace text) with
  | error stop => simp [takeOperation, taken, bind, Except.bind] at read
  | ok pair =>
    obtain ⟨token, behind⟩ := pair
    cases valued : takeValue behind with
    | error stop => simp [takeOperation, taken, valued, bind, Except.bind] at read
    | ok pair =>
      obtain ⟨held, after⟩ := pair
      simp only [takeOperation, taken, valued, bind, Except.bind, pure, Except.pure, Except.ok.injEq,
        Prod.mk.injEq] at read
      obtain ⟨⟨rfl, rfl⟩, rfl⟩ := read
      obtain ⟨operator, named, whole, ended⟩ := exists_operator_of_takeOperator taken
      obtain ⟨space, operand, denoted, left⟩ := exists_operand_of_takeValue valued
      rw [left, ← List.append_assoc,
        Operator.ends_append _ (by simp [operand.chars_ne_nil])] at ended
      refine ⟨⟨gap, operator, space, operand, ended⟩, named, denoted, ?_⟩
      rw [start, whole, left]
      simp [Operation.chars]

theorem Operation.append_inj {first second : Operation} (stops : Stops isWordChar rest)
    (stopped : Stops isWordChar left) (same : first.chars ++ rest = second.chars ++ left) :
    first = second ∧ rest = left := by
  simp only [Operation.chars, List.append_assoc] at same
  obtain ⟨gaps, operators⟩ := Run.append_inj (first.operator.stops_isSpace _)
    (second.operator.stops_isSpace _) same
  obtain ⟨names, spaces⟩ := Operator.append_inj (first.ended_append rest)
    (first.operand.stops_equals first.space rest) (second.ended_append left)
    (second.operand.stops_equals second.space left) operators
  obtain ⟨pads, operands⟩ := Run.append_inj (first.operand.stops_isSpace _)
    (second.operand.stops_isSpace _) spaces
  obtain ⟨values, behind⟩ := Operand.append_inj stops stopped operands
  cases first
  cases second
  cases gaps
  cases names
  cases pads
  cases values
  exact ⟨rfl, behind⟩

end Operations
end ContentQuery.Filter
