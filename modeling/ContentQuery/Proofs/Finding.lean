import ContentQuery.Proofs.TerminalAgreement

namespace ContentQuery

namespace Arguments
variable (arguments : Arguments) {name : String} {value other : Json}

theorem gives_insertValue_self :
    (arguments.insertValue name value).Gives name other ↔ other = value := by
  simp [Gives, Compilation.get?_insertValue, eq_comm]

theorem gives_insertValue_of_ne {argument : String} (apart : argument ≠ name) :
    (arguments.insertValue name value).Gives argument other ↔ arguments.Gives argument other := by
  simp [Gives, Compilation.get?_insertValue, apart]

end Arguments

namespace Store

theorem fault_iff_of_ne {arguments : Arguments} {name : String} (apart : name ≠ Vocabulary.pageSize)
    {failure : QueryError} :
    Fault arguments name failure ↔
      ∃ value, arguments.Gives name value ∧ (∀ id, ¬ HoldsId value id) ∧
        failure = .invalidId name value := by
  simp only [Fault, if_neg apart]

structure Fits (arguments : Arguments) (post : Post) : Prop where
  type : ∀ value, arguments.Gives Vocabulary.postType value → Allows value post.type
  status : ∀ value, arguments.Gives Vocabulary.postStatus value → Allows value post.status
  author : ∀ value, arguments.Gives Vocabulary.author value → HoldsId value post.author

instance (arguments : Arguments) (post : Post) : Decidable (Fits arguments post) :=
  decidable_of_iff
    ((passes (arguments.value? Vocabulary.postType) post.type = true ∧
        passes (arguments.value? Vocabulary.postStatus) post.status = true) ∧
      ((arguments.value? Vocabulary.author).all fun value =>
        idOf? value == some post.author) = true)
    ⟨fun ⟨⟨type, status⟩, author⟩ =>
        ⟨passes_iff.mp type, passes_iff.mp status, holds_iff.mp author⟩,
      fun fits => ⟨⟨passes_iff.mpr fits.type, passes_iff.mpr fits.status⟩,
        holds_iff.mpr fits.author⟩⟩

def sought (store : Store) (arguments : Arguments) (id : Nat) : List Post :=
  store.posts.filter fun post => post.id = id ∧ Fits arguments post

section Seeking
variable (store : Store) (arguments : Arguments) {id : Nat} (small : id ≤ Json.greatestUnsigned)
include small

theorem selects_insertPostId (post : Post) :
    Selects (arguments.insertValue Vocabulary.postId (Json.int id)) post ↔
      post.id = id ∧ Fits arguments post := by
  have held : HoldsId (Json.int id) id := ⟨small, .inl rfl⟩
  have type : Vocabulary.postType ≠ Vocabulary.postId := by decide
  have status : Vocabulary.postStatus ≠ Vocabulary.postId := by decide
  have author : Vocabulary.author ≠ Vocabulary.postId := by decide
  constructor
  · intro selected
    refine ⟨?_, ?_, ?_, ?_⟩
    · exact (selected.id _ (arguments.gives_insertValue_self.mpr rfl)).unique held
    · exact fun value given =>
        selected.type value ((arguments.gives_insertValue_of_ne type).mpr given)
    · exact fun value given =>
        selected.status value ((arguments.gives_insertValue_of_ne status).mpr given)
    · exact fun value given =>
        selected.author value ((arguments.gives_insertValue_of_ne author).mpr given)
  · rintro ⟨rfl, fits⟩
    refine ⟨?_, ?_, ?_, ?_⟩
    · exact fun value given =>
        fits.type value ((arguments.gives_insertValue_of_ne type).mp given)
    · exact fun value given =>
        fits.status value ((arguments.gives_insertValue_of_ne status).mp given)
    · intro value given
      cases arguments.gives_insertValue_self.mp given
      exact held
    · exact fun value given =>
        fits.author value ((arguments.gives_insertValue_of_ne author).mp given)

theorem matching_insertPostId {post : Post} (fits : Fits arguments post) :
    store.matching (arguments.insertValue Vocabulary.postId (Json.int id)) =
      .ok (store.sought arguments id) := by
  rcases store.matching_cases (arguments.insertValue Vocabulary.postId (Json.int id)) with
    ⟨failure, fault | ⟨-, fault⟩, -⟩ | ⟨-, found⟩
  · obtain ⟨value, given, unread, -⟩ := (fault_iff_of_ne (by decide)).mp fault
    cases arguments.gives_insertValue_self.mp given
    exact absurd ⟨small, .inl rfl⟩ (unread id)
  · obtain ⟨value, given, unread, -⟩ := (fault_iff_of_ne (by decide)).mp fault
    have author : Vocabulary.author ≠ Vocabulary.postId := by decide
    have held := fits.author value ((arguments.gives_insertValue_of_ne author).mp given)
    exact absurd held (unread post.author)
  · rw [found, sought]
    simp only [selects_insertPostId arguments small]

-- The page of one post that is asked for may begin behind the first match.
theorem get_seeking {post : Post} (fits : Fits arguments post) :
    (∃ value, arguments.Gives Vocabulary.offset value ∧ (∀ skipped, ¬ HoldsId value skipped) ∧
        store.get ((arguments.insertValue Vocabulary.postId (Json.int id)).insertValue
          Vocabulary.pageSize (Json.int 1)) = .error (.invalidId Vocabulary.offset value)) ∨
      ∃ skipped, Reads arguments Vocabulary.offset skipped ∧
        store.get ((arguments.insertValue Vocabulary.postId (Json.int id)).insertValue
          Vocabulary.pageSize (Json.int 1)) =
            .ok (store.sought arguments id)[skipped.getD 0]?.toList := by
  have one : (Json.int 1).signed? = some 1 := by decide
  have apart : Vocabulary.offset ≠ Vocabulary.postId := by decide
  rw [get_insertPageSize store _ one, matching_insertPostId store arguments small fits,
    readId_insertValue_of_ne arguments apart]
  rcases readId_cases arguments (by decide : Vocabulary.offset ≠ Vocabulary.pageSize) with
    ⟨failure, failed, fault⟩ | ⟨skipped, read, reads, -⟩
  · obtain ⟨value, given, unread, rfl⟩ := (fault_iff_of_ne (by decide)).mp fault
    exact .inl ⟨value, given, unread, by rw [failed]; rfl⟩
  · refine .inr ⟨skipped, reads, ?_⟩
    rw [read, ← List.head?_drop, ← List.take_one]
    rfl

end Seeking
end Store

namespace Session

-- What `find` shows of a post that is there and fits: the first of its kind behind
-- those that the offset skips. Nothing else that was called stands in its way.
theorem find_after_calls (shared : Settings) {steps : List Step} {session : Session} {store : Store}
    (ran : Session.run ⟨shared, .fresh⟩ steps = .ok session)
    (unasked : ∀ step ∈ steps, ∀ terminal, step ≠ .ask terminal)
    (stored : session.query.store = some store) (unformatted : session.query.formatter = none)
    (arrays : session.query.provider.lookup session.shared "return" = some (.str "array"))
    {post : Post} (held : post ∈ store.posts) (small : post.id ≤ Json.greatestUnsigned)
    (fits : Store.Fits session.arguments post) :
    let answer := (session.query.ask session.shared (.find post.id)).1
    let found := store.sought session.arguments post.id
    (∃ value, session.arguments.get? "offset" = some (.value value) ∧
        (∀ skipped, ¬ Store.HoldsId value skipped) ∧
        answer = .error (.invalidId "offset" value)) ∨
      ∃ skipped, (session.arguments.get? "offset" = none ∧ skipped = 0 ∨
          ∃ value, session.arguments.get? "offset" = some (.value value) ∧
            Store.HoldsId value skipped) ∧
        answer = .ok (.output (.post found[skipped]?)) ∧
        (skipped = 0 → ∃ shown ∈ found, answer = .ok (.output (.post (some shown)))) := by
  intro answer found
  have fresh := fresh_of_unasked ran unasked
  have answered : answer = (store.get ((session.arguments.insertValue Vocabulary.postId
      (Json.int post.id)).insertValue Vocabulary.pageSize (Json.int 1))).map
        fun posts => .output (.post posts.head?) := by
    refine (session.query.ask_reply session.shared (.find post.id)).trans ?_
    rw [session.query.handed_unasked session.shared fresh]
    exact session.query.reply_first_of_arrays session.shared stored unformatted arrays _
  have member : post ∈ found := List.mem_filter.mpr ⟨held, decide_eq_true ⟨rfl, fits⟩⟩
  rcases store.get_seeking session.arguments small fits with
    ⟨value, given, unread, failed⟩ | ⟨skipped, reads, shown⟩
  · refine .inl ⟨value, given, unread, ?_⟩
    rw [answered, failed]
    rfl
  · have told : answer = .ok (.output (.post found[skipped.getD 0]?)) := by
      rw [answered, shown]
      exact congrArg (Except.ok ∘ Reply.output ∘ Output.post) Option.head?_toList
    refine .inr ⟨skipped.getD 0, ?_, told, ?_⟩
    · apply reads.absent_or_given
      exact Compilation.clauses?_compile (by decide) _ _
    · intro none
      obtain ⟨first, rest, split⟩ := List.exists_cons_of_ne_nil (List.ne_nil_of_mem member)
      rw [told, none, split]
      exact ⟨first, List.mem_cons_self, rfl⟩

def pagesBehind (offset : Int) : List Step :=
  [.call (.withStore Store.pages), .call (.offset offset), .call (.limit 0), .call (.ofType "page")]

def contact : Post := .published 3 "page" "Contact" default

theorem contact_found :
    ∃ session shown, Session.run ⟨.initial, .fresh⟩ (pagesBehind 0) = .ok session ∧
      contact ∈ Store.pages.posts ∧ Store.Fits session.arguments contact ∧
      (session.query.ask session.shared (.find 3)).1 = .ok (.output (.post (some shown))) ∧
      shown.id = 3 := by
  have unasked : ∀ step ∈ pagesBehind 0, ∀ terminal, step ≠ .ask terminal := by
    simp [pagesBehind]
  have held : contact ∈ Store.pages.posts := by decide
  rcases @find_after_calls .initial (pagesBehind 0) _ Store.pages rfl unasked rfl rfl rfl contact
    held (by decide) (by decide) with
    ⟨value, given, unread, failed⟩ | ⟨skipped, absent | ⟨value, given, holds⟩, told, first⟩
  · cases failed
  · cases absent.1
  · cases given
    have none : skipped = 0 := holds.unique ⟨by decide, .inl rfl⟩
    obtain ⟨shown, member, answered⟩ := first none
    have known := of_decide_eq_true (List.mem_filter.mp member).2
    exact ⟨_, shown, rfl, held, by decide, answered, known.1⟩

theorem contact_behind_offset :
    ∃ session, Session.run ⟨.initial, .fresh⟩ (pagesBehind 1) = .ok session ∧
      session.query.store = some Store.pages ∧ session.query.formatter = none ∧
      session.query.provider.lookup session.shared "return" = some (.str "array") ∧
      contact ∈ Store.pages.posts ∧ contact.id = 3 ∧ Store.Fits session.arguments contact ∧
      (session.query.ask session.shared (.find 3)).1 = .ok (.output (.post none)) := by
  exact ⟨_, rfl, rfl, rfl, rfl, by decide, rfl, by decide, rfl⟩

end Session
end ContentQuery
