import ContentQuery.Proofs.Shapes
import ContentQuery.Proofs.StoredClauses

namespace ContentQuery

theorem Binding.joined_plain (held : Option Binding) (clauses : List PlainClause) :
    ∃ earlier, Binding.joined held (.plain clauses) = .plain (earlier ++ clauses) := by
  cases held with
  | none => exact ⟨[], rfl⟩
  | some held =>
    cases held with
    | plain earlier => exact ⟨earlier, rfl⟩
    | value value => exact ⟨[], by cases value <;> rfl⟩
    | metas nodes | taxonomies nodes | relations levels => exact ⟨[], rfl⟩

namespace Session
open Compilation

theorem get?_of_plain_call {session next : Session} {call : Call} {clauses : List PlainClause}
    (made : session.step (.call call) = .ok next)
    (plain : (Step.call call).clauses? = some clauses) {column : String} {value : Json}
    (named : valueAt column clauses = some value) :
    next.arguments.get? column =
      (overlay column (session.query.bindings.behind Vocabulary.plainClauses)).or
        (some (.value value)) := by
  have bindings : next.query.bindings =
      session.query.bindings.append Vocabulary.plainClauses (.plain clauses) := by
    rw [step_bindings made, Step.writes_of_plain plain]
    rfl
  obtain ⟨earlier, joined⟩ := Binding.joined_plain
    (session.query.bindings.get? Vocabulary.plainClauses) clauses
  have bound : next.query.bindings.get? Vocabulary.plainClauses = some (.plain (earlier ++ clauses)) := by
    rw [bindings, Bindings.append, OrderedMap.get?_alter_self, joined]
  have settled : ∀ held, update column Vocabulary.plainClauses (.plain (earlier ++ clauses)) held =
      some (.value value) := by
    intro held
    simp [update, Compound.valueAt_append, named]
  rw [Session.arguments, Query.arguments, get?_compile_of_settled bound settled, bindings]
  exact congrArg (Option.or · _) (overlay_behind_write_self column session.query.bindings
    (.append Vocabulary.plainClauses (.plain clauses)))

-- A plain clause is taken in every state. Its value is compiled unless what
-- writes the column was first bound behind the first plain clauses; then that
-- keeps the last word, however much earlier it was bound than the clause.
theorem value_after_run (shared : Settings) {steps : List Step} {session : Session}
    (ran : Session.run ⟨shared, .fresh⟩ steps = .ok session) (column : String) {operator : String}
    (known : operator ∈ Vocabulary.operators) {value : Json} (given : value ≠ .null) :
    ∃ next, session.step (.call (.plain ⟨column, some (.str operator), some value⟩)) = .ok next ∧
      next.arguments.get? column =
        (overlay column (session.query.bindings.behind Vocabulary.plainClauses)).or
          (some (.value value)) ∧
      (overlay column (session.query.bindings.behind Vocabulary.plainClauses) = none ↔
        ∀ name, target? name = some column →
          ¬ Write.Trails (steps.flatMap Step.writes) Vocabulary.plainClauses name) := by
  have strict := PlainFilter.strict_of_known known given column
  obtain ⟨next, made⟩ := (@step_ok_iff session
    (.call (.plain ⟨column, some (.str operator), some value⟩))).mpr ⟨_, strict⟩
  have plain : (Step.call (.plain ⟨column, some (.str operator), some value⟩)).clauses? =
      some [⟨column, operator, value⟩] := by
    simp [Step.clauses?, strict]
  have held : session.query.bindings = Step.gather steps := run_bindings ran
  refine ⟨next, made, get?_of_plain_call made plain (by simp [valueAt]), ?_⟩
  rw [held, Step.overlay_behind_eq_none_iff]
  constructor
  · exact And.left
  · intro untargeted
    exact ⟨untargeted, fun trails => absurd trails (Write.not_trails_self _ _)⟩

def paged : List Step :=
  [.call (.limit 5), .call (.plain ⟨"foo", some (.str "="), some (Json.int 1)⟩)]

theorem value_after_limit :
    ∃ session next, Session.run ⟨.initial, .fresh⟩ paged = .ok session ∧
      session.step (.call (.plain ⟨"posts_per_page", some (.str "="), some (Json.int 3)⟩)) = .ok next ∧
      next.arguments.get? "posts_per_page" = some (.value (Json.int 3)) := by
  obtain ⟨next, made, found, _⟩ := @value_after_run .initial paged _ rfl "posts_per_page" "="
    (by decide) (Json.int 3) (by decide)
  exact ⟨_, next, rfl, made, found⟩

theorem value_lost_to_limit :
    ∃ session next, Session.run ⟨.initial, .fresh⟩ paged.reverse = .ok session ∧
      session.step (.call (.plain ⟨"posts_per_page", some (.str "="), some (Json.int 3)⟩)) = .ok next ∧
      next.arguments.get? "posts_per_page" = some (.value (Json.int 5)) ∧
      next.arguments.get? "posts_per_page" ≠ some (.value (Json.int 3)) := by
  refine ⟨_, _, rfl, rfl, rfl, ?_⟩
  intro same
  cases same

end Session
end ContentQuery
