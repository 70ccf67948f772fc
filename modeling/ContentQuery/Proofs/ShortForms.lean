import ContentQuery.Clause.Meta
import ContentQuery.Clause.Plain
import ContentQuery.Clause.Taxonomy

namespace ContentQuery

def PlainFilter.short (column : String) (value : Json) : PlainFilter := ⟨column, some value, none⟩

def PlainFilter.full (column operator : String) (value : Json) : PlainFilter :=
  ⟨column, some (.str operator), some value⟩

def MetaFilter.short (column : String) (value : Json) : MetaFilter :=
  { column, operator := some value }

def MetaFilter.full (column operator : String) (value : Json) : MetaFilter :=
  { column, operator := some (.str operator), value := some value }

def TaxonomyFilter.short (taxonomy field : String) (value : Json) : TaxonomyFilter :=
  { taxonomy, field := some field, operator := some value }

def TaxonomyFilter.full (taxonomy field operator : String) (value : Json) : TaxonomyFilter :=
  { taxonomy, field := some field, operator := some (.str operator), value := some value }

-- A builder that stores the value of a short form, and takes a null beside an
-- operator for no value, tells the two forms apart for a null alone.
theorem Clause.short_eq_full_iff {α : Type} (default : String) (short full : Json → α)
    (stores : ∀ value other, short value = short other → value = other)
    (given : ∀ value, value ≠ .null → full value = short value)
    (omitted : full .null = short (.str default)) (value : Json) :
    short value = full value ↔ value ≠ .null := by
  constructor
  · rintro same rfl
    rw [omitted] at same
    cases stores _ _ same
  · intro present
    exact (given value present).symm

namespace PlainFilter
variable (column : String) (value : Json)

theorem strict_short : (short column value).strict = .ok ⟨column, "=", value⟩ := rfl

theorem lenient_short : (short column value).lenient = ⟨column, "=", value⟩ := rfl

theorem strict_short_eq_full_iff :
    (short column value).strict = (full column "=" value).strict ↔ value ≠ .null := by
  refine Clause.short_eq_full_iff "=" (strict <| short column ·) (strict <| full column "=" ·)
    ?_ ?_ rfl value
  · intro value other same
    simpa only [strict_short, Except.ok.injEq, PlainClause.mk.injEq, true_and] using same
  · intro value present
    simp only [full, strict, Clause.positional_of_given "=" "=" present]
    rfl

theorem lenient_short_eq_full_iff :
    (short column value).lenient = (full column "=" value).lenient ↔ value ≠ .null := by
  refine Clause.short_eq_full_iff "=" (lenient <| short column ·) (lenient <| full column "=" ·)
    ?_ ?_ rfl value
  · intro value other same
    exact congrArg PlainClause.value same
  · intro value present
    simp only [full, lenient, Clause.positional_of_given "=" "=" present]
    rfl

end PlainFilter

theorem MetaFilter.short_eq_full_iff (level : Nat) (column : String) (value : Json) :
    clause level (short column value) = clause level (full column "=" value) ↔ value ≠ .null := by
  refine Clause.short_eq_full_iff "=" (clause level <| short column ·)
    (clause level <| full column "=" ·) ?_ ?_ rfl value
  · intro value other same
    exact congrArg MetaClause.value same
  · intro value present
    simp only [full, clause, Clause.positional_of_given "=" "=" present]
    rfl

theorem TaxonomyFilter.short_eq_full_iff (level : Nat) (taxonomy field : String) (value : Json) :
    clause level (short taxonomy field value) = clause level (full taxonomy field "IN" value) ↔
      value ≠ .null := by
  refine Clause.short_eq_full_iff "IN" (clause level <| short taxonomy field ·)
    (clause level <| full taxonomy field "IN" ·) ?_ ?_ rfl value
  · intro value other same
    exact congrArg TaxonomyClause.terms same
  · intro value present
    simp only [full, clause, Clause.positional_of_given "IN" "IN" present]
    rfl

-- A short form has the operator of its kind and the value as it was given, be it
-- null or the name of an operator. The full form with that operator is the same
-- for every value but null. A null in a full form counts as omitted: then the
-- operator, whichever it is, is the value of a short form.
theorem short_forms_name_default_operator :
    (∀ column value,
      (PlainFilter.short column value).strict = .ok ⟨column, "=", value⟩ ∧
      ((PlainFilter.short column value).strict = (PlainFilter.full column "=" value).strict ↔
        value ≠ .null) ∧
      (PlainFilter.short column value).lenient = ⟨column, "=", value⟩ ∧
      ((PlainFilter.short column value).lenient = (PlainFilter.full column "=" value).lenient ↔
        value ≠ .null)) ∧
    (∀ level column value,
      MetaFilter.clause level (.short column value) = ⟨column, "=", value, "CHAR", level⟩ ∧
      (MetaFilter.clause level (.short column value) =
          MetaFilter.clause level (.full column "=" value) ↔ value ≠ .null)) ∧
    (∀ level taxonomy field value,
      TaxonomyFilter.clause level (.short taxonomy field value) =
        ⟨taxonomy, (Vocabulary.taxonomyField? field).getD "term_id", "IN", value, true, level⟩ ∧
      (TaxonomyFilter.clause level (.short taxonomy field value) =
          TaxonomyFilter.clause level (.full taxonomy field "IN" value) ↔ value ≠ .null)) ∧
    ∀ operator : String,
      (∀ column,
        (PlainFilter.full column operator .null).strict =
          (PlainFilter.short column (.str operator)).strict ∧
        (PlainFilter.full column operator .null).lenient =
          (PlainFilter.short column (.str operator)).lenient) ∧
      (∀ level column,
        MetaFilter.clause level (.full column operator .null) =
          MetaFilter.clause level (.short column (.str operator))) ∧
      ∀ level taxonomy field,
        TaxonomyFilter.clause level (.full taxonomy field operator .null) =
          TaxonomyFilter.clause level (.short taxonomy field (.str operator)) := by
  refine ⟨?_, ?_, ?_, ?_⟩
  · intro column value
    exact ⟨PlainFilter.strict_short column value, PlainFilter.strict_short_eq_full_iff column value,
      PlainFilter.lenient_short column value, PlainFilter.lenient_short_eq_full_iff column value⟩
  · intro level column value
    exact ⟨rfl, MetaFilter.short_eq_full_iff level column value⟩
  · intro level taxonomy field value
    exact ⟨rfl, TaxonomyFilter.short_eq_full_iff level taxonomy field value⟩
  · intro operator
    exact ⟨fun _ => ⟨rfl, rfl⟩, fun _ _ => rfl, fun _ _ _ => rfl⟩

theorem operator_stored_for_null :
    (PlainFilter.short "price" .null).strict = .ok ⟨"price", "=", .null⟩ ∧
      (PlainFilter.full "price" "=" .null).strict = .ok ⟨"price", "=", .str "="⟩ ∧
    (PlainFilter.short "price" .null).lenient ≠ (PlainFilter.full "price" "=" .null).lenient ∧
    MetaFilter.clause 1 (.short "price" .null) ≠ MetaFilter.clause 1 (.full "price" "=" .null) ∧
    TaxonomyFilter.clause 1 (.short "genre" "slug" .null) ≠
      TaxonomyFilter.clause 1 (.full "genre" "slug" "IN" .null) := by
  refine ⟨rfl, rfl, ?_, ?_, ?_⟩
  · intro same
    cases congrArg PlainClause.value same
  · intro same
    cases congrArg MetaClause.value same
  · intro same
    cases congrArg TaxonomyClause.terms same

end ContentQuery
