import ContentQuery.Proofs.StoredClauses
import ContentQuery.Proofs.TermMatches

namespace ContentQuery
open ContentQuery.Filter

namespace Filter

def operatorNames : List String := (symbols ++ words).map String.ofList

theorem Operator.name_mem (operator : Operator) : operator.name ∈ operatorNames := by
  cases operator with
  | symbol token known =>
    rw [Operator.name, Operator.chars, map_toUpper_symbol known]
    exact List.mem_map_of_mem (List.mem_append_left _ known)
  | word letters known => exact List.mem_map_of_mem (List.mem_append_right _ known)

theorem operator_mem_of_readMetaComparison {text : String} {comparison : MetaComparison}
    (read : readMetaComparison text = .ok comparison) : comparison.operator ∈ operatorNames := by
  obtain ⟨written, _, rfl⟩ := readMetaComparison_eq_ok_iff.mp read
  exact written.phrase.operation.operator.name_mem

theorem operator_mem_of_readTermMatch {text : String} {found : TermMatch}
    (read : readTermMatch text = .ok found) :
    ∀ operator ∈ found.operator, operator ∈ operatorNames := by
  obtain ⟨phrase, _, rfl⟩ := readTermMatch_eq_ok_iff.mp read
  intro operator given
  cases form : phrase.terms with
  | compared operation =>
    simp only [TermPhrase.termMatch, form, Terms.operator, Option.mem_some] at given
    exact given ▸ operation.operator.name_mem
  | given space operand => simp [TermPhrase.termMatch, form, Terms.operator] at given

theorem operatorNames_known :
    ∀ name ∈ operatorNames,
      (name ∈ Vocabulary.operators ↔ name ≠ "EXISTS" ∧ name ≠ "AND") := by
  decide

end Filter

theorem MetaFilter.stored_toFilter (level : Nat) (comparison : MetaComparison) :
    ((clause level comparison.toFilter).operator, (clause level comparison.toFilter).value) =
      if comparison.operator ∈ Vocabulary.operators ∧ comparison.value ≠ .null then
        (comparison.operator, comparison.value)
      else ("=", .str comparison.operator) :=
  Clause.corrected_positional (by decide) comparison.operator comparison.value

theorem TaxonomyFilter.stored_toFilter (level : Nat) (found : TermMatch) :
    ((clause level found.toFilter).operator, (clause level found.toFilter).terms) =
      match found.operator with
      | none => ("IN", found.terms)
      | some operator =>
        if operator ∈ Vocabulary.taxonomyOperators ∧ found.terms ≠ .null then
          (operator, found.terms)
        else ("IN", .str operator) := by
  obtain ⟨taxonomy, field, operator, terms⟩ := found
  cases operator with
  | none => exact Clause.corrected_known "IN" terms rfl
  | some operator => exact Clause.corrected_positional (by decide) operator terms

-- A filter that was read adds one clause and nothing else, in every state. The
-- clause has operator and value as they were read, if its kind has the operator
-- and the value is no null; otherwise the operator is taken for the value, beside
-- the operator that the kind falls back on. Terms with no operator stay as read.
theorem filters_stored_as_read (query : Query) :
    (∀ text comparison, readMetaComparison text = .ok comparison → ∃ clause,
      query.call (.metas (.single { filter := comparison.toFilter })) =
          .ok (query.append Vocabulary.metaClauses (.metas [.clause clause])) ∧
        Query.Gains .metas Vocabulary.metaClauses (.clause clause) query
          (query.append Vocabulary.metaClauses (.metas [.clause clause])) ∧
        clause.column = comparison.target ∧ clause.level = 1 ∧
        clause.comparator = (comparison.comparator.bind Vocabulary.comparator?).getD "CHAR" ∧
        (clause.operator, clause.value) =
          if comparison.operator ≠ "EXISTS" ∧ comparison.operator ≠ "AND" ∧
              comparison.value ≠ .null then
            (comparison.operator, comparison.value)
          else ("=", .str comparison.operator)) ∧
    ∀ text found, readTermMatch text = .ok found → ∃ clause,
      query.call (.taxonomies (.single { filter := found.toFilter })) =
          .ok (query.append Vocabulary.taxonomyClauses (.taxonomies [.clause clause])) ∧
        Query.Gains .taxonomies Vocabulary.taxonomyClauses (.clause clause) query
          (query.append Vocabulary.taxonomyClauses (.taxonomies [.clause clause])) ∧
        clause.taxonomy = found.taxonomy ∧ clause.level = 1 ∧
        clause.field = (Vocabulary.taxonomyField? found.field).getD "term_id" ∧
        clause.includeChildren = true ∧
        (∀ operator ∈ found.operator, operator ∈ operatorNames) ∧
        (clause.operator, clause.terms) =
          match found.operator with
          | none => ("IN", found.terms)
          | some operator =>
            if operator ∈ ["IN", "NOT IN", "AND", "EXISTS", "NOT EXISTS"] ∧ found.terms ≠ .null then
              (operator, found.terms)
            else ("IN", .str operator) := by
  constructor
  · intro text comparison read
    have known := operatorNames_known _ (operator_mem_of_readMetaComparison read)
    refine ⟨MetaFilter.clause 1 comparison.toFilter, rfl,
      Query.gains_append .metas _ _ query, rfl, rfl, rfl, ?_⟩
    simp only [MetaFilter.stored_toFilter, known, and_assoc]
  · intro text found read
    refine ⟨TaxonomyFilter.clause 1 found.toFilter, rfl,
      Query.gains_append .taxonomies _ _ query, rfl, rfl, rfl, rfl,
      operator_mem_of_readTermMatch read, ?_⟩
    exact TaxonomyFilter.stored_toFilter 1 found

theorem price_and_genre_stored :
    ∃ comparison price found genre, readMetaComparison "price >= 10::numeric" = .ok comparison ∧
      Query.fresh.call (.metas (.single { filter := comparison.toFilter })) =
        .ok (Query.fresh.append "whereMetas" (.metas [.clause price])) ∧
      (price.operator, price.value) = (">=", Json.int 10) ∧
      readTermMatch "genre.slug NOT IN jazz" = .ok found ∧
      Query.fresh.call (.taxonomies (.single { filter := found.toFilter })) =
        .ok (Query.fresh.append "whereTaxonomies" (.taxonomies [.clause genre])) ∧
      (genre.operator, genre.terms) = ("NOT IN", .str "jazz") := by
  obtain ⟨comparisons, terms⟩ := filters_stored_as_read .fresh
  obtain ⟨price, stored, _, _, _, _, kept⟩ := comparisons "price >= 10::numeric"
    ⟨⟨"price", ">=", Json.int 10⟩, some "numeric"⟩ rfl
  obtain ⟨genre, added, _, _, _, _, _, _, matched⟩ := terms "genre.slug NOT IN jazz"
    ⟨"genre", "slug", some "NOT IN", .str "jazz"⟩ rfl
  refine ⟨_, price, _, genre, rfl, stored, ?_, rfl, added, ?_⟩
  · exact kept.trans (if_pos ⟨by decide, by decide, Json.noConfusion⟩)
  · exact matched.trans (if_pos ⟨by decide, Json.noConfusion⟩)

-- Comparisons have no EXISTS, and terms are not compared with an equals sign.
theorem operators_taken_for_values :
    (∃ comparison clause, readMetaComparison "stock EXISTS 3" = .ok comparison ∧
      Query.fresh.call (.metas (.single { filter := comparison.toFilter })) =
        .ok (Query.fresh.append "whereMetas" (.metas [.clause clause])) ∧
      comparison.operator = "EXISTS" ∧ clause.operator = "=" ∧
      comparison.value = Json.int 3 ∧ clause.value = .str "EXISTS") ∧
    ∃ found clause, readTermMatch "size.name = 32" = .ok found ∧
      Query.fresh.call (.taxonomies (.single { filter := found.toFilter })) =
        .ok (Query.fresh.append "whereTaxonomies" (.taxonomies [.clause clause])) ∧
      found.operator = some "=" ∧ clause.operator = "IN" ∧
      found.terms = Json.int 32 ∧ clause.terms = .str "=" := by
  constructor
  · exact ⟨⟨⟨"stock", "EXISTS", Json.int 3⟩, none⟩, ⟨"stock", "=", .str "EXISTS", "CHAR", 1⟩,
      rfl, rfl, rfl, rfl, rfl, rfl⟩
  · exact ⟨⟨"size", "name", some "=", Json.int 32⟩, ⟨"size", "name", "IN", .str "=", true, 1⟩,
      rfl, rfl, rfl, rfl, rfl, rfl⟩

end ContentQuery
