import ContentQuery.Proofs.Comparisons

namespace ContentQuery.Filter
open Text

section Alternatives

theorem Operand.ne_operator_append (operand : Operand) (operator : Operator) {rest : List Char}
    (ended : operator.Ends rest) : operand.chars ≠ operator.chars ++ rest := by
  intro same
  obtain ⟨c, more, head, starts⟩ := operator.exists_head
  have apart : ∀ mark text, startsOperator mark = false → mark :: text ≠ operator.chars ++ rest := by
    intro mark text bare whole
    rw [head] at whole
    rw [(List.cons.inj whole).1, starts] at bare
    cases bare
  cases operand with
  | list listing => cases listing <;> exact apart '[' _ (by decide) same
  | single item =>
    cases item with
    | quoted quote inner => exact apart quote.mark _ (by cases quote <;> decide) same
    | word run =>
      have same : run.chars = operator.chars ++ rest := same
      have kept : ∀ d ∈ operator.chars ++ rest, isWordChar d = true := fun d member =>
        run.kept d (same ▸ member)
      cases operator with
      | symbol token known =>
        simp only [symbols, List.mem_cons, List.not_mem_nil, or_false] at known
        rcases known with rfl | rfl | rfl | rfl | rfl | rfl <;>
          exact absurd (kept _ List.mem_cons_self) (by decide)
      | word letters known =>
        have ended : endsWord rest = true := ended
        cases rest with
        | nil => cases ended
        | cons d left =>
          have word := kept d (List.mem_append_right _ List.mem_cons_self)
          simp only [endsWord, Bool.or_eq_true, beq_iff_eq] at ended
          rcases ended with space | rfl
          · rw [isWordChar_of_isSpace space] at word
            cases word
          · exact absurd word (by decide)

theorem Operation.chars_ne_given (operation : Operation) (space : Spacing) (operand : Operand)
    (rest : List Char) : operation.chars ++ rest ≠ space.chars ++ operand.chars := by
  intro same
  simp only [Operation.chars, List.append_assoc] at same
  have stops := operand.stops_isSpace []
  rw [List.append_nil] at stops
  obtain ⟨_, operators⟩ := Run.append_inj (operation.operator.stops_isSpace _) stops same
  exact operand.ne_operator_append operation.operator (operation.ended_append rest) operators.symm

theorem takeOperation_given (space : Spacing) (operand : Operand) :
    ∃ stop, takeOperation (space.chars ++ operand.chars) = .error stop := by
  cases taken : takeOperation (space.chars ++ operand.chars) with
  | error stop => exact ⟨stop, rfl⟩
  | ok pair =>
    obtain ⟨⟨operator, value⟩, rest⟩ := pair
    obtain ⟨operation, _, _, whole⟩ := exists_operation_of_takeOperation taken
    exact absurd whole.symm (operation.chars_ne_given space operand rest)

end Alternatives

section Terms

theorem takeTerms_given (space : Filled isSpace) (operand : Operand) :
    takeTerms (space.chars ++ operand.chars) = .ok (operand.value, []) := by
  have value := takeValue_chars_append space.toRun operand stops_nil
  rw [List.append_nil] at value
  rw [← value]
  have kept := space.kept
  cases found : space.chars with
  | nil => exact absurd found space.filled
  | cons c more =>
    rw [found] at kept
    simp [takeTerms, kept c List.mem_cons_self]

theorem exists_given_of_takeTerms {text rest : List Char} {terms : Json}
    (read : takeTerms text = .ok (terms, rest)) :
    ∃ (space : Filled isSpace) (operand : Operand), operand.value = terms ∧
      text = space.chars ++ (operand.chars ++ rest) := by
  unfold takeTerms at read
  split at read
  · rename_i c more
    split at read
    · rename_i spaced
      obtain ⟨space, operand, valued, whole⟩ := exists_operand_of_takeValue read
      have filled : space.chars ≠ [] := by
        intro bare
        have stops := operand.stops_isSpace rest
        rw [bare, List.nil_append] at whole
        rw [← whole] at stops
        exact Bool.eq_false_iff.mp stops spaced
      exact ⟨⟨space, filled⟩, operand, valued, whole⟩
    · cases read
  · cases read

theorem Terms.chars_ne_nil (terms : Terms) : terms.chars ≠ [] := by
  cases terms with
  | compared operation => exact operation.chars_ne_nil
  | given space operand => simp [Terms.chars, operand.chars_ne_nil]

theorem Terms.chars_injective {first second : Terms} (same : first.chars = second.chars) :
    first = second := by
  cases first with
  | compared operation =>
    cases second with
    | compared other =>
      have ended : operation.chars ++ [] = other.chars ++ [] := congrArg (· ++ []) same
      rw [(Operation.append_inj stops_nil stops_nil ended).1]
    | given space operand =>
      refine absurd ?_ (operation.chars_ne_given space.toRun operand [])
      rw [List.append_nil]
      exact same
  | given space operand =>
    cases second with
    | compared operation =>
      refine absurd ?_ (operation.chars_ne_given space.toRun operand [])
      rw [List.append_nil]
      exact same.symm
    | given other others =>
      have ended : space.chars ++ (operand.chars ++ []) = other.chars ++ (others.chars ++ []) := by
        rw [List.append_nil, List.append_nil]
        exact same
      obtain ⟨rfl, operands⟩ := Filled.append_inj (operand.stops_isSpace []) (others.stops_isSpace [])
        ended
      rw [(Operand.append_inj stops_nil stops_nil operands).1]

end Terms

section TermPhrases

theorem stops_dot (rest : List Char) : Stops isIdentifierChar ('.' :: rest) := stops_cons (by decide) rest

theorem takeTermMatch_chars (phrase : TermPhrase) :
    takeTermMatch phrase.chars = .ok (phrase.termMatch, []) := by
  obtain ⟨taxonomy, field, terms, maximal⟩ := phrase
  have first := takeIdentifier_chars_append taxonomy (stops_dot (field.chars ++ terms.chars))
  have second := takeIdentifier_chars_append field maximal
  cases terms with
  | compared operation =>
    have compared := takeOperation_chars_append operation stops_nil
    rw [List.append_nil] at compared
    simp only [Terms.chars] at first second
    simp [takeTermMatch, TermPhrase.chars, Terms.chars, first, takeDot, second, compared,
      TermPhrase.termMatch, Terms.operator, Terms.value, bind, Except.bind, pure, Except.pure]
  | given space operand =>
    obtain ⟨stop, refused⟩ := takeOperation_given space.toRun operand
    simp only [Terms.chars] at first second
    simp [takeTermMatch, TermPhrase.chars, Terms.chars, first, takeDot, second, refused,
      takeTerms_given, TermPhrase.termMatch, Terms.operator, Terms.value, bind, Except.bind, pure,
      Except.pure]

theorem exists_termPhrase_of_takeTermMatch {text rest : List Char} {found : TermMatch}
    (read : takeTermMatch text = .ok (found, rest)) :
    ∃ phrase : TermPhrase, phrase.termMatch = found ∧ text = phrase.chars ++ rest := by
  cases named : takeIdentifier text with
  | error stop => simp [takeTermMatch, named, bind, Except.bind] at read
  | ok pair =>
    obtain ⟨taxonomy, behind⟩ := pair
    cases dotted : takeDot behind with
    | error stop => simp [takeTermMatch, named, dotted, bind, Except.bind] at read
    | ok pair =>
      obtain ⟨_, after⟩ := pair
      cases fielded : takeIdentifier after with
      | error stop => simp [takeTermMatch, named, dotted, fielded, bind, Except.bind] at read
      | ok pair =>
        obtain ⟨field, last⟩ := pair
        simp only [takeTermMatch, named, dotted, fielded, bind, Except.bind] at read
        obtain ⟨first, rfl, whole, _⟩ := exists_identifier_of_takeIdentifier named
        obtain ⟨second, rfl, continued, stops⟩ := exists_identifier_of_takeIdentifier fielded
        have dot : behind = '.' :: after := by
          unfold takeDot at dotted
          split at dotted
          · cases dotted
            rfl
          · cases dotted
        -- Whatever the terms are, the field ends where they begin.
        have written : ∀ terms : Terms, last = terms.chars ++ rest → ∃ phrase : TermPhrase,
            phrase.termMatch = ⟨String.ofList first.chars, String.ofList second.chars,
              terms.operator, terms.value⟩ ∧ text = phrase.chars ++ rest := by
          intro terms ended
          rw [ended, stops_append terms.chars_ne_nil] at stops
          refine ⟨⟨first, second, terms, stops⟩, rfl, ?_⟩
          rw [whole, dot, continued, ended]
          simp [TermPhrase.chars]
        split at read
        · rename_i operator terms left compared
          cases read
          obtain ⟨operation, rfl, rfl, ended⟩ := exists_operation_of_takeOperation compared
          exact written (.compared operation) ended
        · cases given : takeTerms last with
          | error stop => simp [given] at read
          | ok pair =>
            obtain ⟨terms, left⟩ := pair
            simp only [given, pure, Except.pure, Except.ok.injEq, Prod.mk.injEq] at read
            obtain ⟨rfl, rfl⟩ := read
            obtain ⟨space, operand, rfl, ended⟩ := exists_given_of_takeTerms given
            refine written (.given space operand) ?_
            rw [ended, Terms.chars, List.append_assoc]

theorem TermPhrase.chars_injective {first second : TermPhrase} (same : first.chars = second.chars) :
    first = second := by
  obtain ⟨taxonomies, dots⟩ := Filled.append_inj (stops_dot _) (stops_dot _) same
  obtain ⟨fields, terms⟩ := Filled.append_inj first.maximal second.maximal (List.cons.inj dots).2
  have terms := Terms.chars_injective terms
  cases first
  cases second
  cases taxonomies
  cases fields
  cases terms
  rfl

theorem TermPhrase.edged (phrase : TermPhrase) : Edged phrase.chars := by
  obtain ⟨taxonomy, field, terms, maximal⟩ := phrase
  have join : ∀ (front : List Char) (operand : Operand),
      Edged (taxonomy.chars ++ '.' :: (field.chars ++ (front ++ operand.chars))) := by
    intro front operand
    have whole : taxonomy.chars ++ '.' :: (field.chars ++ (front ++ operand.chars)) =
        taxonomy.chars ++ (('.' :: (field.chars ++ front)) ++ operand.chars) := by
      simp
    rw [whole]
    exact (Identifier.edged taxonomy).join _ operand.edged
  cases terms with
  | compared operation =>
    have whole : operation.chars = (operation.gap.chars ++ operation.operator.chars ++
        operation.space.chars) ++ operation.operand.chars := by
      simp [Operation.chars]
    change Edged (taxonomy.chars ++ '.' :: (field.chars ++ operation.chars))
    rw [whole]
    exact join _ operation.operand
  | given space operand => exact join space.chars operand

theorem readTermMatch_eq_ok_iff {text : String} {found : TermMatch} :
    readTermMatch text = .ok found ↔
      ∃ phrase : TermPhrase, phrase.chars = trimChars text.toList ∧ phrase.termMatch = found := by
  rw [readTermMatch, whole_eq_ok_iff]
  constructor
  · intro read
    obtain ⟨phrase, denoted, whole⟩ := exists_termPhrase_of_takeTermMatch read
    exact ⟨phrase, by rw [whole, List.append_nil], denoted⟩
  · rintro ⟨phrase, whole, rfl⟩
    rw [← whole, takeTermMatch_chars]

end TermPhrases

end ContentQuery.Filter
