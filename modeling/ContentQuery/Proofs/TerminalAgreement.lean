import ContentQuery.Proofs.Counting
import ContentQuery.Proofs.Leftovers

namespace ContentQuery

namespace Compilation

theorem clauses?_update {argument : String}
    (simple : argument ≠ Vocabulary.metaQuery ∧ argument ≠ Vocabulary.taxonomyQuery)
    (name : String) (binding : Binding) {held : Option Argument}
    (bare : held.bind Argument.clauses? = none) :
    (update argument name binding held).bind Argument.clauses? = none := by
  cases binding with
  | plain clauses =>
    simp only [update]
    split
    · cases valueAt argument clauses with
      | none => exact bare
      | some value => rfl
    · exact bare
  | value value =>
    simp only [update]
    split <;> split <;> first | rfl | exact bare
  | metas nodes | taxonomies nodes | relations levels => simpa [update, simple] using bare

theorem clauses?_compile {argument : String}
    (simple : argument ≠ Vocabulary.metaQuery ∧ argument ≠ Vocabulary.taxonomyQuery)
    (lookup : Lookup) (bindings : Bindings) :
    (compile lookup bindings).clauses? argument = none := by
  rw [Arguments.clauses?, get?_compile]
  have bare : (start lookup bindings argument).bind Argument.clauses? = none := by
    rcases start_cases lookup bindings argument with absent | ⟨value, given⟩
    · rw [absent]
      rfl
    · rw [given]
      rfl
  generalize start lookup bindings argument = held at bare
  induction bindings.entries generalizing held with
  | nil => exact bare
  | cons entry rest ih => exact ih _ (clauses?_update simple entry.1 entry.2 bare)

end Compilation

theorem Arguments.value?_insertValue_of_ne (arguments : Arguments) {name argument : String}
    (apart : argument ≠ name) (value : Json) :
    (arguments.insertValue name value).value? argument = arguments.value? argument := by
  rw [value?, Compilation.get?_insertValue, if_neg apart]
  rfl

namespace Store
variable (store : Store) (arguments : Arguments)

theorem readId_insertValue_of_ne {name argument : String} (apart : argument ≠ name) (value : Json) :
    readId (arguments.insertValue name value) argument = readId arguments argument := by
  rw [readId, arguments.value?_insertValue_of_ne apart]
  rfl

theorem matching_insertPageSize (value : Json) :
    store.matching (arguments.insertValue Vocabulary.pageSize value) = store.matching arguments :=
  (store.matching_congr (arguments.alike_insertValue (.inr rfl) value)).symm

theorem page_insertPageSize {value : Json} {size : Int} (held : value.signed? = some size)
    (posts : List Post) :
    page (arguments.insertValue Vocabulary.pageSize value) posts =
      (readId arguments Vocabulary.offset).map fun skipped =>
        onPage (skipped.getD 0) size posts := by
  have apart : Vocabulary.offset ≠ Vocabulary.pageSize := by decide
  have read : readPageSize (arguments.insertValue Vocabulary.pageSize value) = .ok size := by
    simp [readPageSize, Arguments.value?, Compilation.get?_insertValue, Argument.value?, held]
  rw [page, readId_insertValue_of_ne arguments apart, read]
  cases readId arguments Vocabulary.offset <;> rfl

theorem get_insertPageSize {value : Json} {size : Int} (held : value.signed? = some size) :
    store.get (arguments.insertValue Vocabulary.pageSize value) =
      (store.matching arguments).bind fun posts =>
        (readId arguments Vocabulary.offset).map fun skipped =>
          onPage (skipped.getD 0) size posts := by
  rw [get, matching_insertPageSize]
  simp only [page_insertPageSize arguments held]
  rfl

theorem Reads.absent_or_given {arguments : Arguments} {name : String} {read : Option Nat}
    (reads : Reads arguments name read) (bare : arguments.clauses? name = none) :
    arguments.get? name = none ∧ read.getD 0 = 0 ∨
      ∃ value, arguments.get? name = some (.value value) ∧ HoldsId value (read.getD 0) := by
  cases read with
  | some id => exact .inr reads
  | none =>
    refine .inl ⟨?_, rfl⟩
    cases held : arguments.get? name with
    | none => rfl
    | some argument =>
      cases argument with
      | value value => exact absurd held (reads value)
      | clauses list =>
        rw [Arguments.clauses?, held] at bare
        cases bare

theorem one_all_count :
    (∃ failure,
      store.get (arguments.insertValue Vocabulary.pageSize (Json.int 1)) = .error failure ∧
      store.get (arguments.insertValue Vocabulary.pageSize (Json.int (-1))) = .error failure ∧
      ∀ result, store.query arguments ≠ .ok result) ∨
    ∃ posts skipped, Reads arguments Vocabulary.offset skipped ∧
      store.get (arguments.insertValue Vocabulary.pageSize (Json.int 1)) =
        .ok posts.head?.toList ∧
      store.get (arguments.insertValue Vocabulary.pageSize (Json.int (-1))) = .ok posts ∧
      ∀ result, store.query arguments = .ok result →
        posts.length = result.found - skipped.getD 0 := by
  have one : (Json.int 1).signed? = some 1 := by decide
  have all : (Json.int (-1)).signed? = some (-1) := by decide
  rw [get_insertPageSize store arguments one, get_insertPageSize store arguments all, query]
  cases matched : store.matching arguments with
  | error failure => exact .inl ⟨failure, rfl, rfl, nofun⟩
  | ok posts =>
    rcases readId_cases arguments (by decide : Vocabulary.offset ≠ Vocabulary.pageSize) with
      ⟨failure, failed, _⟩ | ⟨skipped, read, reads, _⟩
    · refine .inl ⟨failure, by rw [failed]; rfl, by rw [failed]; rfl, ?_⟩
      intro result asked
      simp [page, failed, bind, Except.bind] at asked
    · refine .inr ⟨posts.drop (skipped.getD 0), skipped, reads, ?_, by rw [read]; rfl, ?_⟩
      · rw [read, ← List.take_one]
        rfl
      · intro result asked
        cases paged : page arguments posts with
        | error failure => simp [paged, bind, Except.bind] at asked
        | ok shown =>
          have counted : (⟨arguments, shown, posts.length⟩ : QueryResult) = result := by
            simpa [paged, bind, Except.bind, pure, Except.pure] using asked
          rw [List.length_drop, ← counted]

end Store

namespace Query
variable (query : Query) (shared : Settings)

section Arrays
variable {store : Store} (stored : query.store = some store) (unformatted : query.formatter = none)
  (arrays : query.provider.lookup shared Vocabulary.answerSetting = some (.str Format.posts.name))
include stored unformatted arrays

theorem resolveFormatter_of_arrays :
    query.resolveFormatter shared none = .ok (Format.posts.ask store) := by
  have named : Format.named? Format.posts.name = some .posts := by decide
  simp only [resolveFormatter, unformatted, arrays, named, stored]
  rfl

theorem reply_all_of_arrays (handed : Arguments) :
    query.reply shared handed .all = (store.get handed).map (.output ∘ .posts) := by
  rw [reply, query.resolveFormatter_of_arrays shared stored unformatted arrays]
  change ((store.get handed).map Output.posts).map Reply.output = _
  cases store.get handed <;> rfl

theorem reply_first_of_arrays (handed : Arguments) :
    query.reply shared handed .first =
      (store.get handed).map fun posts => .output (.post posts.head?) := by
  have heads : ∀ posts, query.firstOf shared (.posts posts) = .post posts.head? := by
    intro posts
    have shows : query.returnsArguments shared = false := by
      rw [returnsArguments, arrays]
      decide
    rw [firstOf, shows]
    rfl
  rw [reply, query.resolveFormatter_of_arrays shared stored unformatted arrays]
  change ((store.get handed).map Output.posts).map _ = _
  cases store.get handed with
  | error failure => rfl
  | ok posts => exact congrArg (Except.ok ∘ Reply.output) (heads posts)

end Arrays

theorem reply_count {store : Store} (stored : query.store = some store) (handed : Arguments) :
    query.reply shared handed .count =
      (store.query handed).map fun result => .output (.count result.found) := by
  rw [reply, resolveFormatter, stored]
  change ((store.query handed).map fun result => Output.count result.found).map Reply.output = _
  cases store.query handed <;> rfl

end Query

namespace Session

-- The first post is the head of all posts, and how many there are is told by the
-- count of the matches less those that the offset skips. What limits a page does
-- not come into it: a terminal's own page size is bound last.
theorem terminals_agree (shared : Settings) {steps : List Step} {session : Session} {store : Store}
    (ran : Session.run ⟨shared, .fresh⟩ steps = .ok session)
    (unasked : ∀ step ∈ steps, ∀ terminal, step ≠ .ask terminal)
    (stored : session.query.store = some store) (unformatted : session.query.formatter = none)
    (arrays : session.query.provider.lookup session.shared "return" = some (.str "array")) :
    let answer terminal := (session.query.ask session.shared terminal).1
    (∃ failure, answer .first = .error failure ∧ answer .all = .error failure ∧
      ∀ reply, answer .count ≠ .ok reply) ∨
    ∃ posts, answer .first = .ok (.output (.post posts.head?)) ∧
      answer .all = .ok (.output (.posts posts)) ∧
      ∀ reply, answer .count = .ok reply → ∃ found offset, reply = .output (.count found) ∧
        posts.length = found - offset ∧
        (session.arguments.get? "offset" = none ∧ offset = 0 ∨
          ∃ value, session.arguments.get? "offset" = some (.value value) ∧
            Store.HoldsId value offset) := by
  intro answer
  have fresh := fresh_of_unasked ran unasked
  have first : answer .first =
      (store.get (session.arguments.insertValue Vocabulary.pageSize (Json.int 1))).map
        fun posts => .output (.post posts.head?) := by
    refine (session.query.ask_reply session.shared .first).trans ?_
    rw [session.query.handed_unasked session.shared fresh]
    exact session.query.reply_first_of_arrays session.shared stored unformatted arrays _
  have all : answer .all =
      (store.get (session.arguments.insertValue Vocabulary.pageSize (Json.int (-1)))).map
        (.output ∘ .posts) := by
    refine (session.query.ask_reply session.shared .all).trans ?_
    rw [session.query.handed_unasked session.shared fresh]
    exact session.query.reply_all_of_arrays session.shared stored unformatted arrays _
  have count : answer .count =
      (store.query session.arguments).map fun result => .output (.count result.found) :=
    (session.query.ask_reply session.shared .count).trans
      (session.query.reply_count session.shared stored _)
  rcases store.one_all_count session.arguments with
    ⟨failure, noFirst, noAll, uncounted⟩ | ⟨posts, skipped, reads, one, every, counted⟩
  · refine .inl ⟨failure, by rw [first, noFirst]; rfl, by rw [all, noAll]; rfl, ?_⟩
    intro reply counted
    rw [count] at counted
    cases asked : store.query session.arguments with
    | error failure => simp [asked, Except.map] at counted
    | ok result => exact uncounted result asked
  · refine .inr ⟨posts, ?_, by rw [all, every]; rfl, ?_⟩
    · rw [first, one]
      cases posts <;> rfl
    · intro reply replied
      rw [count] at replied
      cases asked : store.query session.arguments with
      | error failure => simp [asked, Except.map] at replied
      | ok result =>
        rw [asked] at replied
        cases replied
        refine ⟨result.found, skipped.getD 0, rfl, counted result asked, ?_⟩
        apply reads.absent_or_given
        exact Compilation.clauses?_compile (by decide) _ _

def behindFirst : List Step :=
  [.call (.withStore Store.pages), .call (.setting "return" (.str "array")), .call (.offset 1),
    .call (.plain ⟨"posts_per_page", some (Json.int 9), none⟩), .call (.limit 1)]

theorem two_behind_first :
    ∃ session posts, Session.run ⟨.initial, .fresh⟩ behindFirst = .ok session ∧
      (session.query.ask session.shared .first).1 = .ok (.output (.post posts.head?)) ∧
      (session.query.ask session.shared .all).1 = .ok (.output (.posts posts)) ∧
      posts.length = 2 := by
  have unasked : ∀ step ∈ behindFirst, ∀ terminal, step ≠ .ask terminal := by
    simp [behindFirst]
  rcases @terminals_agree .initial behindFirst _ Store.pages rfl unasked rfl rfl rfl with
    ⟨failure, -, failed, -⟩ | ⟨posts, first, all, counted⟩
  · cases failed
  · obtain ⟨found, offset, number, length, absent | ⟨value, given, holds⟩⟩ :=
      counted (.output (.count 3)) rfl
    · cases absent.1
    · cases number
      cases given
      have one : offset = 1 := holds.unique ⟨by decide, .inl rfl⟩
      subst one
      exact ⟨_, posts, rfl, first, all, length⟩

end Session
end ContentQuery
