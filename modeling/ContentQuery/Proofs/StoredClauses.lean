import ContentQuery.Proofs.Contexts
import ContentQuery.Proofs.Histories
import ContentQuery.Query

namespace ContentQuery

namespace Clause
variable {tokens : List String} {default : String} {operator value : Option Json}

-- The value was given, and no operator beside it is outside the table. A null
-- counts as not given.
def Kept (tokens : List String) (operator value : Option Json) : Prop :=
  value.getD .null ≠ .null ∧
    (operator.getD .null = .null ∨ ∃ token ∈ tokens, operator = some (.str token))

def Clashes (tokens : List String) (operator value : Option Json) : Prop :=
  value.getD .null ≠ .null ∧ operator.getD .null ≠ .null ∧
    ∀ token ∈ tokens, operator ≠ some (.str token)

-- What became of the operator and the value that a clause was made from. The
-- operator that is stored is one of the table whatever was written.
structure Accounts (tokens : List String) (default : String) (operator value : Option Json)
    (token : String) (stored : Json) : Prop where
  known : token ∈ tokens
  kept : Kept tokens operator value →
    value = some stored ∧ token = (operator.bind Json.string?).getD default
  moved : ¬ Kept tokens operator value → stored = operator.getD .null ∧ token = default

theorem omitted_or_kept_or_clashes (tokens : List String) (operator value : Option Json) :
    value.getD .null = .null ∨ Kept tokens operator value ∨ Clashes tokens operator value := by
  by_cases omitted : value.getD .null = .null
  · exact .inl omitted
  · by_cases kept : operator.getD .null = .null ∨ ∃ token ∈ tokens, operator = some (.str token)
    · exact .inr (.inl ⟨omitted, kept⟩)
    · obtain ⟨named, unlisted⟩ := not_or.mp kept
      exact .inr (.inr ⟨omitted, named, fun token listed same => unlisted ⟨token, listed, same⟩⟩)

theorem Kept.not_clashes (kept : Kept tokens operator value) : ¬ Clashes tokens operator value := by
  rintro ⟨_, named, unlisted⟩
  rcases kept.2 with absent | ⟨token, listed, same⟩
  · exact named absent
  · exact unlisted token listed same

theorem eq_some_getD {part : Option Json} (given : part.getD .null ≠ .null) :
    part = some (part.getD .null) := by
  cases part with
  | none => exact absurd rfl given
  | some held => rfl

theorem positional_omitted (default : String) (operator : Option Json)
    (omitted : value.getD .null = .null) :
    positional default operator value = (.str default, operator.getD .null) := by
  cases value with
  | none => rfl
  | some held =>
    obtain rfl : held = .null := omitted
    rfl

theorem positional_short (default : String) (given : value.getD .null ≠ .null)
    (absent : operator.getD .null = .null) :
    positional default operator value = (.str default, value.getD .null) := by
  unfold positional
  split
  · exact absurd rfl given
  · exact absurd rfl given
  · split
    · rfl
    · rfl
    · rename_i token unnull
      exact absurd absent unnull

theorem positional_full (default : String) (given : value.getD .null ≠ .null)
    (named : operator.getD .null ≠ .null) :
    positional default operator value = (operator.getD .null, value.getD .null) := by
  unfold positional
  split
  · exact absurd rfl given
  · exact absurd rfl given
  · split
    · exact absurd rfl named
    · exact absurd rfl named
    · rfl

theorem positional_of_kept (listed : default ∈ tokens) (kept : Kept tokens operator value) :
    (operator.bind Json.string?).getD default ∈ tokens ∧
      positional default operator value =
        (.str ((operator.bind Json.string?).getD default), value.getD .null) := by
  obtain ⟨given, absent | ⟨token, known, rfl⟩⟩ := kept
  · have bare : operator.bind Json.string? = none := by
      cases operator with
      | none => rfl
      | some token =>
        obtain rfl : token = .null := absent
        rfl
    rw [bare]
    exact ⟨listed, positional_short default given absent⟩
  · exact ⟨known, positional_full default given Json.noConfusion⟩

theorem corrected_listed (default : String) {token : String} (listed : token ∈ tokens) (held : Json) :
    corrected (fun name => tokens.find? (· == name)) default (.str token) held = (token, held) :=
  corrected_known default held ((Vocabulary.find?_token tokens token).trans (if_pos listed))

theorem string?_bind_unlisted {operator : Json} (unlisted : ∀ token ∈ tokens, operator ≠ .str token) :
    operator.string?.bind (fun name => tokens.find? (· == name)) = none := by
  cases operator with
  | str name =>
    have missing : name ∉ tokens := fun listed => unlisted name listed rfl
    exact (Vocabulary.find?_token tokens name).trans (if_neg missing)
  | null | bool _ | num _ | arr _ | obj _ => rfl

theorem Clashes.unlisted (clash : Clashes tokens operator value) :
    ∀ token ∈ tokens, operator.getD .null ≠ .str token := by
  intro token listed same
  apply clash.2.2 token listed
  rw [← same]
  exact eq_some_getD clash.2.1

theorem accounts_corrected (listed : default ∈ tokens) (operator value : Option Json) :
    Accounts tokens default operator value
      (corrected (fun name => tokens.find? (· == name)) default
        (positional default operator value).1 (positional default operator value).2).1
      (corrected (fun name => tokens.find? (· == name)) default
        (positional default operator value).1 (positional default operator value).2).2 := by
  rcases omitted_or_kept_or_clashes tokens operator value with omitted | kept | clash
  · rw [positional_omitted default operator omitted, corrected_listed default listed]
    exact ⟨listed, fun kept => absurd omitted kept.1, fun _ => ⟨rfl, rfl⟩⟩
  · obtain ⟨known, settled⟩ := positional_of_kept listed kept
    rw [settled, corrected_listed default known]
    exact ⟨known, fun _ => ⟨eq_some_getD kept.1, rfl⟩, fun other => absurd kept other⟩
  · rw [positional_full default clash.1 clash.2.1, corrected,
      string?_bind_unlisted clash.unlisted]
    exact ⟨listed, fun kept => absurd clash kept.not_clashes, fun _ => ⟨rfl, rfl⟩⟩

theorem corrected_positional (listed : default ∈ tokens) (operator : String) (value : Json) :
    corrected (fun token => tokens.find? (· == token)) default
        (positional default (some (.str operator)) (some value)).1
        (positional default (some (.str operator)) (some value)).2 =
      if operator ∈ tokens ∧ value ≠ .null then (operator, value)
      else (default, .str operator) := by
  obtain ⟨_, kept, moved⟩ := accounts_corrected listed (some (.str operator)) (some value)
  split
  · rename_i given
    obtain ⟨stored, token⟩ := kept ⟨given.2, .inr ⟨operator, given.1, rfl⟩⟩
    exact Prod.ext token (Option.some.inj stored).symm
  · rename_i lacking
    have lost : ¬ Kept tokens (some (.str operator)) (some value) := by
      rintro ⟨given, absent | ⟨token, known, same⟩⟩
      · cases absent
      · cases same
        exact lacking ⟨known, given⟩
    obtain ⟨stored, token⟩ := moved lost
    exact Prod.ext token stored

end Clause

structure Spelled (tokens : List String) (default : String) (name : Option String) (token : String) :
    Prop where
  known : token ∈ tokens
  spelled : (∃ given ∈ name, sameLetters token given = true) ∨
    token = default ∧ ∀ given ∈ name, ∀ other ∈ tokens, sameLetters other given = false

theorem spelled_find? {tokens : List String} {default : String} (listed : default ∈ tokens)
    (name : Option String) :
    Spelled tokens default name
      ((name.bind fun given => tokens.find? (sameLetters · given)).getD default) := by
  cases name with
  | none => exact ⟨listed, .inr ⟨rfl, nofun⟩⟩
  | some given =>
    cases found : tokens.find? (sameLetters · given) with
    | none =>
      refine ⟨by simpa [found] using listed, .inr ⟨by simp [found], ?_⟩⟩
      intro written same other member
      obtain rfl := Option.some.inj same
      exact Bool.eq_false_iff.mpr (List.find?_eq_none.mp found other member)
    | some token =>
      have same := List.find?_some found
      exact ⟨by simpa [found] using List.mem_of_find?_eq_some found,
        .inl ⟨given, rfl, by simpa [found] using same⟩⟩

structure PlainClause.Stores (clause : PlainClause) (filter : PlainFilter) : Prop where
  column : clause.column = filter.column
  value : Clause.Accounts Vocabulary.operators "=" filter.operator filter.value
    clause.operator clause.value

structure MetaClause.Stores (clause : MetaClause) (filter : MetaFilter) : Prop where
  column : clause.column = filter.column
  value : Clause.Accounts Vocabulary.operators "=" filter.operator filter.value
    clause.operator clause.value
  comparator : Spelled Vocabulary.comparators "CHAR" filter.comparator clause.comparator

structure TaxonomyClause.Stores (clause : TaxonomyClause) (filter : TaxonomyFilter) : Prop where
  taxonomy : clause.taxonomy = filter.taxonomy
  field : Spelled Vocabulary.taxonomyFields "term_id" filter.field clause.field
  terms : Clause.Accounts Vocabulary.taxonomyOperators "IN" filter.operator filter.value
    clause.operator clause.terms
  includeChildren : clause.includeChildren = filter.includeChildren

theorem Vocabulary.operator?_of_mem {operator : String} (known : operator ∈ operators) :
    operator? operator = some operator :=
  (find?_token operators operator).trans (if_pos known)

namespace PlainFilter
open Clause (Clashes)

theorem lenient_stores (filter : PlainFilter) : filter.lenient.Stores filter :=
  ⟨rfl, Clause.accounts_corrected (by decide) filter.operator filter.value⟩

theorem strict_of_positional {filter : PlainFilter} {token : String} {held : Json}
    (settled : Clause.positional "=" filter.operator filter.value = (.str token, held))
    (listed : token ∈ Vocabulary.operators) : filter.strict = .ok filter.lenient := by
  have found : (Json.str token).string?.bind Vocabulary.operator? = some token :=
    Vocabulary.operator?_of_mem listed
  simp only [strict, lenient, settled, found, Clause.corrected]

theorem strict_of_known {operator : String} {value : Json}
    (known : operator ∈ Vocabulary.operators) (given : value ≠ .null) (column : String) :
    strict ⟨column, some (.str operator), some value⟩ = .ok ⟨column, operator, value⟩ := by
  have settled := Clause.positional_of_given "=" operator given
  have corrected := Clause.corrected_known "=" value (Vocabulary.operator?_of_mem known)
  rw [strict_of_positional settled known]
  simp only [lenient, settled, corrected]

theorem strict_of_fits {filter : PlainFilter}
    (fits : ¬ Clashes Vocabulary.operators filter.operator filter.value) :
    filter.strict = .ok filter.lenient := by
  have listed : "=" ∈ Vocabulary.operators := by
    decide
  rcases Clause.omitted_or_kept_or_clashes Vocabulary.operators filter.operator filter.value with
    omitted | kept | clash
  · exact strict_of_positional (Clause.positional_omitted "=" filter.operator omitted) listed
  · obtain ⟨known, settled⟩ := Clause.positional_of_kept listed kept
    exact strict_of_positional settled known
  · exact absurd clash fits

theorem strict_of_clashes {filter : PlainFilter}
    (clash : Clashes Vocabulary.operators filter.operator filter.value) :
    filter.strict = .error (.illegalOperator filter.column (filter.operator.getD .null)) := by
  have unknown : (filter.operator.getD .null).string?.bind Vocabulary.operator? = none :=
    Clause.string?_bind_unlisted clash.unlisted
  have given : (filter.value.getD .null).isNull = false := by
    cases held : filter.value.getD .null with
    | null => exact absurd held clash.1
    | bool _ | num _ | str _ | arr _ | obj _ => rfl
  simp [strict, Clause.positional_full "=" clash.1 clash.2.1, unknown, given]

end PlainFilter

theorem MetaFilter.clause_stores (level : Nat) (filter : MetaFilter) :
    (filter.clause level).Stores filter :=
  ⟨rfl, Clause.accounts_corrected (by decide) filter.operator filter.value,
    spelled_find? (by decide) filter.comparator⟩

theorem TaxonomyFilter.clause_stores (level : Nat) (filter : TaxonomyFilter) :
    (filter.clause level).Stores filter :=
  ⟨rfl, spelled_find? (by decide) filter.field,
    Clause.accounts_corrected (by decide) filter.operator filter.value, rfl⟩

def placeOf {β δ : Type} (walk : β → List Nat → Option δ) (list : List β) (index : Nat)
    (path : List Nat) : Option δ :=
  list[index]?.bind fun head => walk head path

namespace Contexts
variable {α χ γ : Type} {kind : Contexts α χ γ} (lawful : kind.Lawful)
include lawful

theorem filter_of_clause {level : Nat} {member : Member α χ} {path : List Nat} {clause : γ}
    (stored : (kind.node level member).at? path = some (.clause clause)) :
    ∃ placed, kind.at? level member path = some (.filter placed) ∧
      ∃ fixed, clause = kind.normalize fixed placed.filter := by
  rw [node_at? lawful] at stored
  obtain ⟨found, there, built⟩ := Option.map_eq_some_iff.mp stored
  rw [node_eq_resolved lawful] at built
  cases found with
  | filter placed =>
    cases built
    exact ⟨placed, there, _, rfl⟩
  | scope inner => cases built

theorem filter_of_place {level index : Nat} {members : List (Member α χ)} {path : List Nat}
    {clause : γ}
    (stored : placeOf Node.at? (members.map (kind.node level)) index path = some (.clause clause)) :
    ∃ placed, placeOf (kind.at? level) members index path = some (.filter placed) ∧
      ∃ fixed, clause = kind.normalize fixed placed.filter := by
  unfold placeOf at stored ⊢
  rw [List.getElem?_map] at stored
  cases there : members[index]? with
  | none => simp [there] at stored
  | some member =>
    rw [there] at stored
    exact filter_of_clause lawful stored

end Contexts

namespace Query

-- One clause more at the end of the list that the name holds, and nothing else.
structure Gains (kind : ClauseKind) (name : String) (clause : kind.Clause)
    (before after : Query) : Prop where
  list : after.bindings.get? name =
    some (kind.binding (kind.held (before.bindings.get? name) ++ [clause]))
  others : ∀ other, other ≠ name → after.bindings.get? other = before.bindings.get? other
  rest : { after with bindings := before.bindings } = before

theorem gains_append (kind : ClauseKind) (name : String) (clause : kind.Clause) (query : Query) :
    Gains kind name clause query (query.append name (kind.binding [clause])) := by
  refine ⟨?_, ?_, rfl⟩
  · exact (OrderedMap.get?_alter_self _ _ _).trans (congrArg some (kind.joined_binding _ [clause]))
  · exact fun other apart => OrderedMap.get?_alter_of_ne _ apart _

end Query

-- A single filter whose operator plain clauses do not have, beside a value, is
-- refused. Every clause that is stored otherwise, alone, in a list or at any
-- depth of nested contexts, has tokens of its kind alone, and it accounts for the
-- operator and the value that were written at its place.
theorem stored_clauses_accounted (query : Query) :
    (∀ filter : PlainFilter,
      (Clause.Clashes Vocabulary.operators filter.operator filter.value →
        query.call (.plain filter) =
          .error (.illegalOperator filter.column (filter.operator.getD .null))) ∧
      (¬ Clause.Clashes Vocabulary.operators filter.operator filter.value → ∃ clause : PlainClause,
        query.call (.plain filter) =
          .ok (query.append Vocabulary.plainClauses (.plain [clause])) ∧ clause.Stores filter)) ∧
    (∀ filters : List PlainFilter,
      query.call (.plains filters) = .ok (query.append Vocabulary.plainClauses
        (.plain (filters.map PlainFilter.lenient))) ∧
      ∀ filter ∈ filters, filter.lenient.Stores filter) ∧
    (∀ (input : MetaInput) (index : Nat) (path : List Nat) (clause : MetaClause),
      placeOf Node.at? input.build.nodes index path = some (.clause clause) → ∃ placed,
        placeOf (metaContexts.at? topLevel) (Input.parts input) index path = some (.filter placed) ∧
        clause.Stores placed.filter) ∧
    ∀ (input : TaxonomyInput) (index : Nat) (path : List Nat) (clause : TaxonomyClause),
      placeOf Node.at? input.build.nodes index path = some (.clause clause) → ∃ placed,
        placeOf (taxonomyContexts.at? topLevel) input.parts index path = some (.filter placed) ∧
        clause.Stores placed.filter := by
  refine ⟨?_, ?_, ?_, ?_⟩
  · intro filter
    constructor
    · intro clash
      rw [Query.call, PlainFilter.strict_of_clashes clash]
      rfl
    · intro fits
      refine ⟨filter.lenient, ?_, filter.lenient_stores⟩
      rw [Query.call, PlainFilter.strict_of_fits fits]
      rfl
  · intro filters
    exact ⟨rfl, fun filter _ => filter.lenient_stores⟩
  · intro input index path clause stored
    rw [MetaInput.build_eq_parts] at stored
    obtain ⟨placed, there, level, rfl⟩ := Contexts.filter_of_place lawful_metaContexts stored
    exact ⟨placed, there, placed.filter.clause_stores level⟩
  · intro input index path clause stored
    rw [TaxonomyInput.build_eq_parts] at stored
    obtain ⟨placed, there, level, rfl⟩ := Contexts.filter_of_place lawful_taxonomyContexts stored
    exact ⟨placed, there, placed.filter.clause_stores level⟩

theorem misspelt_operator_accounted :
    Query.fresh.call (.plain ⟨"size", some (.str "=<"), some (Json.int 3)⟩) =
      .error (.illegalOperator "size" (.str "=<")) ∧
    (∃ clause : PlainClause,
      Query.fresh.call (.plain ⟨"size", some (.str "<="), some (Json.int 3)⟩) =
        .ok (Query.fresh.append "wheres" (.plain [clause])) ∧
      clause.Stores ⟨"size", some (.str "<="), some (Json.int 3)⟩) ∧
    PlainClause.Stores ⟨"size", "=", .str "=<"⟩ ⟨"size", some (.str "=<"), some (Json.int 3)⟩ ∧
    (∃ placed : Placed MetaFilter,
      placed.filter = ⟨"size", some (.str "=<"), some (Json.int 3), some "numeric"⟩ ∧
      MetaClause.Stores ⟨"size", "=", .str "=<", "NUMERIC", 3⟩ placed.filter) ∧
    ∃ placed : Placed TaxonomyFilter,
      placed.filter = { taxonomy := "genre", field := some "slug", operator := some (.str "jazz") } ∧
      TaxonomyClause.Stores ⟨"genre", "slug", "IN", .str "jazz", true, 1⟩ placed.filter := by
  obtain ⟨plain, plains, metas, taxonomies⟩ := stored_clauses_accounted .fresh
  refine ⟨?_, ?_, ?_, ?_, ?_⟩
  · exact (plain ⟨"size", some (.str "=<"), some (Json.int 3)⟩).1
      ⟨Json.noConfusion, Json.noConfusion, by decide⟩
  · apply (plain ⟨"size", some (.str "<="), some (Json.int 3)⟩).2
    rintro ⟨_, _, unlisted⟩
    exact unlisted "<=" (by decide) rfl
  · exact (plains [⟨"size", some (.str "=<"), some (Json.int 3)⟩]).2 _ (List.mem_singleton.mpr rfl)
  · obtain ⟨placed, there, stores⟩ := metas
      (.scope [.relate "OR", .nest [.add
        ⟨⟨"size", some (.str "=<"), some (Json.int 3), some "numeric"⟩, none, none⟩]] none)
      0 [0, 0] ⟨"size", "=", .str "=<", "NUMERIC", 3⟩ rfl
    cases there
    exact ⟨_, rfl, stores⟩
  · obtain ⟨placed, there, stores⟩ := taxonomies
      (.several [.single
        { filter := { taxonomy := "genre", field := some "slug", operator := some (.str "jazz") } }])
      0 [] ⟨"genre", "slug", "IN", .str "jazz", true, 1⟩ rfl
    cases there
    exact ⟨_, rfl, stores⟩

end ContentQuery
