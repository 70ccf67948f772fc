import ContentQuery.Proofs.Batches
import ContentQuery.Proofs.StoredClauses
import ContentQuery.Proofs.Writes

namespace ContentQuery
open Clause (Clashes)

namespace PlainFilter

theorem strict_eq_error_iff {filter : PlainFilter} {failure : QueryError} :
    filter.strict = .error failure ↔
      Clashes Vocabulary.operators filter.operator filter.value ∧
        failure = .illegalOperator filter.column (filter.operator.getD .null) := by
  by_cases clash : Clashes Vocabulary.operators filter.operator filter.value
  · rw [strict_of_clashes clash]
    constructor
    · intro failed
      exact ⟨clash, (Except.error.inj failed).symm⟩
    · rintro ⟨_, rfl⟩
      rfl
  · rw [strict_of_fits clash]
    constructor
    · intro failed
      cases failed
    · rintro ⟨other, _⟩
      exact absurd other clash

theorem strict_eq_ok_iff {filter : PlainFilter} {clause : PlainClause} :
    filter.strict = .ok clause ↔
      ¬ Clashes Vocabulary.operators filter.operator filter.value ∧ filter.lenient = clause := by
  by_cases clash : Clashes Vocabulary.operators filter.operator filter.value
  · rw [strict_of_clashes clash]
    constructor
    · intro built
      cases built
    · rintro ⟨fits, _⟩
      exact absurd clash fits
  · rw [strict_of_fits clash]
    constructor
    · intro built
      exact ⟨clash, Except.ok.inj built⟩
    · rintro ⟨_, rfl⟩
      rfl

end PlainFilter

namespace Session

def appendPlain (session : Session) (clauses : List PlainClause) : Session :=
  { session with query := session.query.append Vocabulary.plainClauses (.plain clauses) }

theorem appendPlain_appendPlain (session : Session) (first second : List PlainClause) :
    (session.appendPlain first).appendPlain second = session.appendPlain (first ++ second) := by
  have joined := session.query.append_append Vocabulary.plainClauses
    fun held => (Binding.joined_joined held).1 first second
  unfold appendPlain
  rw [joined]

theorem step_plains (session : Session) (filters : List PlainFilter) :
    session.step (.call (.plains filters)) =
      .ok (session.appendPlain (filters.map PlainFilter.lenient)) := rfl

theorem step_plain (session : Session) {filter : PlainFilter}
    (fits : ¬ Clashes Vocabulary.operators filter.operator filter.value) :
    session.step (.call (.plain filter)) = .ok (session.appendPlain [filter.lenient]) := by
  rw [step, Query.call, PlainFilter.strict_of_fits fits]
  rfl

theorem fits_of_step_plain {session next : Session} {filter : PlainFilter}
    (taken : session.step (.call (.plain filter)) = .ok next) :
    ¬ Clashes Vocabulary.operators filter.operator filter.value := by
  intro clash
  rw [step, Query.call, PlainFilter.strict_of_clashes clash] at taken
  cases taken

-- Calls one after another add what one call adds for all of them. Without any
-- filter the two differ: a call with an empty list binds the name.
theorem run_plain_calls (session : Session) {filters : List PlainFilter} (filled : filters ≠ [])
    (fits : ∀ filter ∈ filters, ¬ Clashes Vocabulary.operators filter.operator filter.value) :
    session.run (filters.map fun filter => .call (.plain filter)) =
      .ok (session.appendPlain (filters.map PlainFilter.lenient)) := by
  induction filters generalizing session with
  | nil => exact absurd rfl filled
  | cons filter rest ih =>
    obtain ⟨first, others⟩ := List.forall_mem_cons.mp fits
    rw [List.map_cons, run_cons]
    refine ⟨session.appendPlain [filter.lenient], session.step_plain first, ?_⟩
    cases rest with
    | nil => rfl
    | cons second more =>
      rw [ih (session.appendPlain [filter.lenient]) (List.cons_ne_nil second more) others,
        appendPlain_appendPlain]
      rfl

-- A filter that stands alone is refused just for an operator that plain clauses
-- do not have, beside a value. Otherwise it gives the clause that it gives in a
-- list, and a list is always taken. So filters that are taken one by one leave
-- the query as they do in one list.
theorem single_and_listed_agree :
    (∀ filter : PlainFilter,
      ((∃ failure, filter.strict = .error failure) ↔
        filter.value.getD .null ≠ .null ∧ filter.operator.getD .null ≠ .null ∧
          ∀ token ∈ Vocabulary.operators, filter.operator ≠ some (.str token)) ∧
      (∀ failure, filter.strict = .error failure → failure.kind = .validation) ∧
      ∀ clause, filter.strict = .ok clause → filter.lenient = clause) ∧
    (∀ (session : Session) (filters : List PlainFilter),
      session.step (.call (.plains filters)) =
        .ok (session.appendPlain (filters.map PlainFilter.lenient))) ∧
    ∀ (session : Session) (filters : List PlainFilter), filters ≠ [] →
      (∀ filter ∈ filters, ∃ next, session.step (.call (.plain filter)) = .ok next) →
      ∃ last, session.run (filters.map fun filter => .call (.plain filter)) = .ok last ∧
        session.step (.call (.plains filters)) = .ok last := by
  refine ⟨?_, step_plains, ?_⟩
  · intro filter
    refine ⟨?_, ?_, ?_⟩
    · constructor
      · rintro ⟨failure, failed⟩
        exact (PlainFilter.strict_eq_error_iff.mp failed).1
      · intro clash
        exact ⟨_, PlainFilter.strict_of_clashes clash⟩
    · intro failure failed
      rw [(PlainFilter.strict_eq_error_iff.mp failed).2]
      rfl
    · intro clause built
      exact (PlainFilter.strict_eq_ok_iff.mp built).2
  · intro session filters filled taken
    refine ⟨_, session.run_plain_calls filled ?_, session.step_plains filters⟩
    intro filter member
    obtain ⟨next, made⟩ := taken filter member
    exact fits_of_step_plain made

theorem price_and_size_agree :
    ∃ last, Session.run ⟨.initial, .fresh⟩
        [.call (.plain ⟨"price", some (.str ">="), some (Json.int 3)⟩),
          .call (.plain ⟨"size", some (.str "M"), none⟩)] = .ok last ∧
      Session.step ⟨.initial, .fresh⟩ (.call (.plains
        [⟨"price", some (.str ">="), some (Json.int 3)⟩, ⟨"size", some (.str "M"), none⟩])) =
          .ok last := by
  apply single_and_listed_agree.2.2 ⟨.initial, .fresh⟩
    [⟨"price", some (.str ">="), some (Json.int 3)⟩, ⟨"size", some (.str "M"), none⟩]
  · exact List.cons_ne_nil _ _
  · intro filter member
    rcases List.mem_cons.mp member with rfl | other
    · exact ⟨_, rfl⟩
    · rw [List.mem_singleton.mp other]
      exact ⟨_, rfl⟩

end Session
end ContentQuery
