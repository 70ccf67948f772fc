import ContentQuery.Proofs.Comparisons
import ContentQuery.Proofs.DoubleRange
import ContentQuery.Proofs.StoredClauses

namespace ContentQuery
open ContentQuery.Filter

theorem Decimal.digit_or_sign {text : List Char} (digits : isDigits (takeSign text).2 = true) :
    ∀ c ∈ text, c.isDigit = true ∨ c = '-' ∨ c = '+' := by
  have each : ∀ c ∈ (takeSign text).2, c.isDigit = true :=
    List.all_eq_true.mp (Bool.and_eq_true_iff.mp digits).2
  intro c member
  unfold takeSign at each
  split at each
  · rcases List.mem_cons.mp member with rfl | behind
    · exact .inr (.inl rfl)
    · exact .inl (each c behind)
  · rcases List.mem_cons.mp member with rfl | behind
    · exact .inr (.inr rfl)
    · exact .inl (each c behind)
  · exact .inl (each c member)

theorem Decimal.integer?_of_other {text : List Char} {c : Char} (member : c ∈ text)
    (other : ¬ (c.isDigit = true ∨ c = '-' ∨ c = '+')) : integer? text = none :=
  if_neg fun digits => other (digit_or_sign digits c member)

theorem Decimal.integer?_of_point {text : List Char} (point : '.' ∈ text) : integer? text = none :=
  integer?_of_other point (by decide)

namespace Filter

def TooLarge (word : List Char) : Prop :=
  '.' ∈ word ∧ ∃ negative decimal, Decimal.literal? word = some (negative, decimal) ∧
    decimal.Reaches Double.rangeEnd

theorem doubleValue_eq_null_iff (literal : Bool × Decimal) :
    doubleValue literal = .null ↔ literal.2.Reaches Double.rangeEnd := by
  rw [← Double.ofDecimal_eq_none_iff literal.1 literal.2.significand literal.2.exponent]
  unfold doubleValue
  split
  · rename_i value found
    rw [found]
    exact iff_of_false Json.noConfusion (fun missing => by cases missing)
  · rename_i missing
    exact iff_of_true rfl missing

theorem wordValue_of_point {word : List Char} (point : '.' ∈ word) :
    wordValue word = match Decimal.literal? word with
      | some literal => doubleValue literal
      | none => .str (String.ofList word) := by
  have listed : word.contains '.' = true := List.contains_iff_mem.mpr point
  unfold wordValue
  rw [Decimal.integer?_of_point point, if_pos listed]
  cases Decimal.literal? word with
  | some literal => rfl
  | none =>
    have plain : ∀ other : List Char, '.' ∉ other → word ≠ other := by
      rintro other pointless rfl
      exact pointless point
    dsimp only [Option.filter]
    rw [if_neg (plain _ (by decide)), if_neg (plain _ (by decide))]

theorem wordValue_of_no_point {word : List Char} (pointless : '.' ∉ word) :
    wordValue word ≠ .null := by
  have unlisted : ¬ word.contains '.' = true := fun listed =>
    pointless (List.contains_iff_mem.mp listed)
  unfold wordValue
  rw [if_neg unlisted]
  split
  · exact Json.noConfusion
  · dsimp only
    split
    · exact Json.noConfusion
    · split
      · exact Json.noConfusion
      · exact Json.noConfusion

theorem wordValue_eq_null_iff {word : List Char} : wordValue word = .null ↔ TooLarge word := by
  by_cases point : '.' ∈ word
  · rw [wordValue_of_point point]
    cases found : Decimal.literal? word with
    | none =>
      apply iff_of_false Json.noConfusion
      rintro ⟨_, negative, decimal, read, _⟩
      rw [found] at read
      cases read
    | some literal =>
      obtain ⟨negative, decimal⟩ := literal
      refine (doubleValue_eq_null_iff (negative, decimal)).trans ⟨?_, ?_⟩
      · intro reached
        exact ⟨point, negative, decimal, found, reached⟩
      · rintro ⟨_, other, same, read, reached⟩
        rw [found] at read
        cases read
        exact reached
  · exact iff_of_false (wordValue_of_no_point point) (fun large => point large.1)

theorem Operand.value_eq_null_iff {operand : Operand} :
    operand.value = .null ↔ ∃ run, operand = .single (.word run) ∧ TooLarge run.chars := by
  cases operand with
  | list listing => exact iff_of_false Json.noConfusion (fun ⟨_, same, _⟩ => by cases same)
  | single item =>
    cases item with
    | quoted quote inner => exact iff_of_false Json.noConfusion (fun ⟨_, same, _⟩ => by cases same)
    | word run =>
      refine wordValue_eq_null_iff.trans ⟨fun large => ⟨run, rfl, large⟩, ?_⟩
      rintro ⟨other, same, large⟩
      cases same
      exact large

theorem Comparison.value_eq_null_iff {text : String} {comparison : Comparison}
    (read : readComparison text = .ok comparison) :
    comparison.value = .null ↔ ∃ (phrase : Phrase) (run : Filled isWordChar),
      phrase.chars = Text.trimChars text.toList ∧
        phrase.operation.operand = .single (.word run) ∧ TooLarge run.chars := by
  obtain ⟨phrase, written, rfl⟩ := readComparison_eq_ok_iff.mp read
  refine Operand.value_eq_null_iff.trans ⟨?_, ?_⟩
  · rintro ⟨run, alone, large⟩
    exact ⟨phrase, run, written, alone, large⟩
  · rintro ⟨other, run, same, alone, large⟩
    obtain rfl := Phrase.chars_injective (same.trans written.symm)
    exact ⟨run, alone, large⟩

end Filter

theorem PlainFilter.stored_toFilter {comparison : Comparison}
    (known : comparison.operator ∈ Vocabulary.operators) :
    comparison.toFilter.strict = .ok comparison.toFilter.lenient ∧
      (comparison.toFilter.lenient.operator, comparison.toFilter.lenient.value) =
        if comparison.value = .null then ("=", .str comparison.operator)
        else (comparison.operator, comparison.value) := by
  have fits : ¬ Clause.Clashes Vocabulary.operators (some (.str comparison.operator))
      (some comparison.value) := fun clash => clash.2.2 comparison.operator known rfl
  refine ⟨strict_of_fits fits,
    (Clause.corrected_positional (by decide) comparison.operator comparison.value).trans ?_⟩
  by_cases absent : comparison.value = .null
  · rw [if_pos absent, if_neg fun given => given.2 absent]
  · rw [if_neg absent, if_pos ⟨known, absent⟩]

-- A comparison with an operator of plain clauses is stored in every state, and
-- as it was read, unless its value is a decimal beyond the finite range. Such a
-- word has no JSON value but null; that counts as no value, and the operator is
-- taken for the value. No other text is read as a null.
theorem comparisons_stored_as_read (query : Query) {text : String} {comparison : Comparison}
    (read : readComparison text = .ok comparison)
    (known : comparison.operator ∈ Vocabulary.operators) :
    ∃ clause : PlainClause,
      query.call (.plain comparison.toFilter) =
          .ok (query.append Vocabulary.plainClauses (.plain [clause])) ∧
        Query.Gains .plain Vocabulary.plainClauses clause query
          (query.append Vocabulary.plainClauses (.plain [clause])) ∧
        clause.column = comparison.target ∧
        (clause.operator, clause.value) =
          (if comparison.value = .null then ("=", .str comparison.operator)
          else (comparison.operator, comparison.value)) ∧
        (comparison.value = .null ↔ ∃ (phrase : Phrase) (run : Filled isWordChar),
          phrase.chars = Text.trimChars text.toList ∧
            phrase.operation.operand = .single (.word run) ∧ TooLarge run.chars) := by
  obtain ⟨strict, stored⟩ := PlainFilter.stored_toFilter known
  refine ⟨comparison.toFilter.lenient, ?_, Query.gains_append .plain _ _ query, rfl, stored,
    Comparison.value_eq_null_iff read⟩
  rw [Query.call, strict]
  rfl

theorem price_stored :
    ∃ comparison clause, readComparison "price >= 10" = .ok comparison ∧
      comparison.operator ∈ Vocabulary.operators ∧
      Query.fresh.call (.plain comparison.toFilter) =
        .ok (Query.fresh.append "wheres" (.plain [clause])) ∧
      clause.column = "price" ∧ (clause.operator, clause.value) = (">=", Json.int 10) := by
  have known : ">=" ∈ Vocabulary.operators := by
    decide
  obtain ⟨clause, stored, _, column, kept, _⟩ := @comparisons_stored_as_read .fresh "price >= 10"
    ⟨"price", ">=", Json.int 10⟩ rfl known
  exact ⟨_, clause, rfl, known, stored, column, kept.trans (if_neg Json.noConfusion)⟩

theorem operator_stored_for_large_number :
    ∃ comparison clause, readComparison "price >= 1.0e999" = .ok comparison ∧
      comparison.operator ∈ Vocabulary.operators ∧ comparison.value = .null ∧
      Query.fresh.call (.plain comparison.toFilter) =
        .ok (Query.fresh.append "wheres" (.plain [clause])) ∧
      clause.operator = "=" ∧ clause.value = .str ">=" ∧
      clause ≠ ⟨comparison.target, comparison.operator, comparison.value⟩ := by
  refine ⟨⟨"price", ">=", .null⟩, ⟨"price", "=", .str ">="⟩, rfl, ?_, rfl, rfl, rfl, rfl, ?_⟩
  · decide
  · intro same
    have value := congrArg PlainClause.value same
    cases value

end ContentQuery
