import ContentQuery.Proofs.Shapes

namespace ContentQuery

def Terminal.pageSize? : Terminal → Option Int
  | .all => some (-1)
  | .first | .find _ => some 1
  | .get | .count | .pluck _ | .aggregate _ => none

namespace Query

def handed (query : Query) (shared : Settings) (terminal : Terminal) : Arguments :=
  (query.ask shared terminal).2.arguments shared

def shown (query : Query) (shared : Settings) : Terminal → Output → Output
  | .first | .find _ => query.firstOf shared
  | .get | .all | .count | .pluck _ | .aggregate _ => id

theorem map_answer {α : Type} (query : Query) (shared : Settings) (forced : Option Format)
    (change : Output → α) :
    (query.answer shared forced).map change =
      (query.resolveFormatter shared forced).bind fun formatter =>
        (formatter (query.arguments shared)).map change := by
  rw [answer]
  cases query.resolveFormatter shared forced <;> rfl

theorem reply_of_forced (query : Query) (shared : Settings) {terminal : Terminal} {size : Int}
    (forces : terminal.pageSize? = some size) :
    (query.ask shared terminal).1 =
      (query.resolveFormatter shared none).bind fun formatter =>
        (formatter (query.handed shared terminal)).map fun output =>
          .output (query.shown shared terminal output) := by
  have shows : ∀ asked : Query,
      ((asked.answer shared none).map (asked.firstOf shared)).map Reply.output =
        (asked.answer shared none).map fun output => .output (asked.firstOf shared output) := by
    intro asked
    cases asked.answer shared none <;> rfl
  cases terminal with
  | first => exact (shows _).trans (map_answer (query.withPageSize 1) shared none _)
  | find id =>
    exact (shows _).trans
      (map_answer ((query.bind Vocabulary.postId (Json.int id)).withPageSize 1) shared none _)
  | all => exact map_answer (query.withPageSize (-1)) shared none _
  | get | count | pluck _ | aggregate _ => cases forces

end Query

namespace Compilation

theorem get?_compile_of_known {lookup : Lookup} {bindings : Bindings} {name : String} {value : Json}
    (known : Vocabulary.isArgument name = true) (free : name ≠ Vocabulary.postType)
    (bound : bindings.get? name = some (.value value)) :
    (compile lookup bindings).get? name =
      (overlay name (bindings.behind name)).or (some (.value value)) := by
  apply get?_compile_of_settled bound
  intro held
  rw [update_of_plain_name (copied_of_known known)]
  exact if_pos ⟨known, free, rfl⟩

theorem update_known_elsewhere {argument name : String}
    (known : Vocabulary.isArgument name = true) (apart : argument ≠ name) (binding : Binding)
    (held : Option Argument) : update argument name binding held = held := by
  rw [update_of_plain_name (copied_of_known known)]
  cases binding <;> simp [apart]

end Compilation

namespace Terminal
open Compilation

theorem get?_pageSize {terminal : Terminal} {size : Int} (forces : terminal.pageSize? = some size)
    (bindings : Bindings) :
    (bindings.writeAll terminal.writes).get? Vocabulary.pageSize = some (.value (Json.int size)) := by
  cases terminal with
  | first | all | find _ =>
    cases forces
    exact OrderedMap.get?_alter_self _ _ _
  | get | count | pluck _ | aggregate _ => cases forces

theorem overlay_pageSize {terminal : Terminal} {size : Int}
    (forces : terminal.pageSize? = some size) (bindings : Bindings) :
    overlay Vocabulary.pageSize ((bindings.writeAll terminal.writes).behind Vocabulary.pageSize) =
      overlay Vocabulary.pageSize (bindings.behind Vocabulary.pageSize) := by
  cases terminal with
  | first => exact overlay_behind_write_self _ bindings (.bind Vocabulary.pageSize (Json.int 1))
  | all => exact overlay_behind_write_self _ bindings (.bind Vocabulary.pageSize (Json.int (-1)))
  | find id =>
    have silent := @update_known_elsewhere Vocabulary.pageSize Vocabulary.postId (by decide) (by decide)
    refine (overlay_behind_write_self _ (bindings.write (.bind Vocabulary.postId (Json.int id)))
      (.bind Vocabulary.pageSize (Json.int 1))).trans ?_
    exact overlay_behind_write_of_silent silent bindings rfl (by decide)
  | get | count | pluck _ | aggregate _ => cases forces

theorem get?_postId (id : Nat) (bindings : Bindings) :
    (bindings.writeAll (Terminal.find id).writes).get? Vocabulary.postId =
      some (.value (Json.int id)) := by
  have apart : Vocabulary.postId ≠ Vocabulary.pageSize := by decide
  exact (OrderedMap.get?_alter_of_ne _ apart _).trans (OrderedMap.get?_alter_self _ _ _)

theorem overlay_postId (id : Nat) (bindings : Bindings) :
    overlay Vocabulary.postId
        ((bindings.writeAll (Terminal.find id).writes).behind Vocabulary.postId) =
      overlay Vocabulary.postId (bindings.behind Vocabulary.postId) := by
  have silent := @update_known_elsewhere Vocabulary.postId Vocabulary.pageSize (by decide) (by decide)
  refine (overlay_behind_write_of_silent silent
    (bindings.write (.bind Vocabulary.postId (Json.int id))) rfl (by decide)).trans ?_
  exact overlay_behind_write_self _ bindings (.bind Vocabulary.postId (Json.int id))

end Terminal

namespace Session
open Compilation

-- A terminal hands over the page size that it forces, and `find` the post that
-- it looks for, unless what writes the same argument was first bound behind the
-- slot that an earlier terminal took.
theorem forced_after_run (shared : Settings) {steps : List Step} {session : Session}
    (ran : Session.run ⟨shared, .fresh⟩ steps = .ok session) {terminal : Terminal} {size : Int}
    (forces : terminal.pageSize? = some size) :
    (session.query.ask session.shared terminal).1 =
      ((session.query.resolveFormatter session.shared none).bind fun formatter =>
        (formatter (session.query.handed session.shared terminal)).map fun output =>
          .output (session.query.shown session.shared terminal output)) ∧
    (session.query.handed session.shared terminal).get? Vocabulary.pageSize =
      (overlay Vocabulary.pageSize (session.query.bindings.behind Vocabulary.pageSize)).or
        (some (.value (Json.int size))) ∧
    (overlay Vocabulary.pageSize (session.query.bindings.behind Vocabulary.pageSize) = none ↔
      ¬ Write.Trails (steps.flatMap Step.writes) Vocabulary.pageSize Vocabulary.limit ∧
      (Write.Trails (steps.flatMap Step.writes) Vocabulary.pageSize Vocabulary.plainClauses →
        ∀ clause ∈ Step.plainClauses steps, clause.column ≠ Vocabulary.pageSize)) ∧
    ∀ id, terminal = .find id →
      (session.query.handed session.shared terminal).get? Vocabulary.postId =
        (overlay Vocabulary.postId (session.query.bindings.behind Vocabulary.postId)).or
          (some (.value (Json.int id))) ∧
      (overlay Vocabulary.postId (session.query.bindings.behind Vocabulary.postId) = none ↔
        (Write.Trails (steps.flatMap Step.writes) Vocabulary.postId Vocabulary.plainClauses →
          ∀ clause ∈ Step.plainClauses steps, clause.column ≠ Vocabulary.postId)) := by
  have held : session.query.bindings = Step.gather steps := run_bindings ran
  have asked := session.query.ask_bindings session.shared terminal
  refine ⟨session.query.reply_of_forced session.shared forces, ?_, ?_, ?_⟩
  · have bound := Terminal.get?_pageSize forces session.query.bindings
    rw [← asked] at bound
    rw [Query.handed, Query.arguments, get?_compile_of_known (by decide) (by decide) bound, asked,
      Terminal.overlay_pageSize forces]
  · rw [held, Step.overlay_behind_own_eq_none_iff steps (by decide) (by decide)]
    simp
  · rintro id rfl
    constructor
    · have bound := Terminal.get?_postId id session.query.bindings
      rw [← asked] at bound
      rw [Query.handed, Query.arguments, get?_compile_of_known (by decide) (by decide) bound, asked,
        Terminal.overlay_postId]
    · rw [held, Step.overlay_behind_own_eq_none_iff steps (by decide) (by decide)]
      have apart : Vocabulary.postId ≠ Vocabulary.pageSize := by decide
      simp [apart]

theorem forced_behind_limit :
    ∃ session, Session.run ⟨.initial, .fresh⟩ [.call (.limit 5), .ask .all, .call (.limit 8)] =
        .ok session ∧
      (session.query.handed session.shared (.find 7)).get? "posts_per_page" =
        some (.value (Json.int 1)) ∧
      (session.query.handed session.shared (.find 7)).get? "p" = some (.value (Json.int 7)) := by
  obtain ⟨_, size, _, found⟩ := @forced_after_run .initial
    [.call (.limit 5), .ask .all, .call (.limit 8)] _ rfl (.find 7) 1 rfl
  exact ⟨_, rfl, size, (found 7 rfl).1⟩

-- The limit takes its slot behind the page size that the first terminal forced.
theorem limit_kept_by_all :
    ∃ session, Session.run ⟨.initial, .fresh⟩
        [.call (.setting "return" (.str "argument")), .ask .first, .call (.limit 5)] = .ok session ∧
      (session.query.ask session.shared .all).1 =
        .ok (.output (.arguments (session.query.handed session.shared .all))) ∧
      (session.query.handed session.shared .all).get? "posts_per_page" =
        some (.value (Json.int 5)) ∧
      (session.query.handed session.shared .all).get? "posts_per_page" ≠
        some (.value (Json.int (-1))) := by
  refine ⟨_, rfl, rfl, rfl, ?_⟩
  intro same
  cases same

end Session
end ContentQuery
