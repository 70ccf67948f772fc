import ContentQuery.Proofs.IntegerTexts
import ContentQuery.Proofs.PostTypes
import ContentQuery.Proofs.Reordering
import ContentQuery.Proofs.TerminalAgreement

namespace ContentQuery

namespace Store
variable {type status : String} {author : Nat}

theorem idOf?_intText (small : author ≤ Json.greatestUnsigned) :
    idOf? (.str (intText author)) = some author := by
  have digits : (intText author).toList = Nat.toDigits 10 author := by
    rw [toList_intText, if_neg (by omega), Int.natAbs_natCast]
  rw [idOf?_eq_some_iff]
  refine ⟨small, .inr ⟨intText author, [], Nat.toDigits 10 author, rfl, ?_, .inl rfl, ?_, ?_⟩⟩
  · rw [(edged_intText author).trimChars, digits, List.nil_append]
  · rw [Decimal.isDigits, Bool.and_eq_true, List.all_eq_true]
    exact ⟨by simp [Nat.toDigits_ne_nil], Decimal.isDigit_toDigits author⟩
  · exact Decimal.digitsValue_toDigits author

structure Narrows (arguments : Arguments) (type : String) (author : Nat) (status : String) :
    Prop where
  type : arguments.Gives Vocabulary.postType (.str type)
  author : arguments.Gives Vocabulary.author (.str (intText author))
  status : arguments.Gives Vocabulary.postStatus (.str status)
  id : ∀ value, ¬ arguments.Gives Vocabulary.postId value
  offset : ∀ value, ¬ arguments.Gives Vocabulary.offset value
  size : arguments.Gives Vocabulary.pageSize (Json.int (-1))

theorem accepts_of_specific {wanted actual : String} (specific : wanted ≠ Vocabulary.any) :
    accepts wanted actual = decide (actual = wanted) := by
  rw [Bool.eq_iff_iff, accepts_iff, decide_eq_true_iff]
  simp [specific, eq_comm]

theorem get_of_narrows {arguments : Arguments} (narrows : Narrows arguments type author status)
    (small : author ≤ Json.greatestUnsigned) (typed : type ≠ Vocabulary.any)
    (narrow : status ≠ Vocabulary.any) (store : Store) :
    store.get arguments = .ok (store.posts.filter fun post =>
      post.type = type ∧ post.author = author ∧ post.status = status) := by
  obtain ⟨types, authors, statuses, ids, offsets, sizes⟩ := narrows
  rw [← Arguments.value?_eq_some_iff] at types authors statuses sizes
  rw [← Arguments.value?_eq_none_iff] at ids offsets
  have matched : store.matching arguments =
      .ok (store.posts.filter (isMatch arguments none (some author))) := by
    simp only [matching, readId, ids, authors, idOf?_intText small]
    rfl
  have shown : ∀ posts, page arguments posts = .ok posts := by
    intro posts
    simp only [page, readId, readPageSize, offsets, sizes]
    rfl
  have same : ∀ post, isMatch arguments none (some author) post =
      decide (post.type = type ∧ post.author = author ∧ post.status = status) := by
    intro post
    rw [isMatch, types, statuses, Bool.eq_iff_iff]
    simp only [passes, isWanted, accepts_of_specific typed, accepts_of_specific narrow,
      Bool.and_eq_true, decide_eq_true_iff, beq_iff_eq]
    constructor
    · rintro ⟨⟨⟨typed, current⟩, -⟩, written⟩
      exact ⟨typed, written.symm, current⟩
    · rintro ⟨typed, written, current⟩
      exact ⟨⟨⟨typed, current⟩, trivial⟩, written.symm⟩
  rw [get, matched]
  refine (shown _).trans (congrArg Except.ok ?_)
  exact List.filter_congr fun post _ => same post

end Store

namespace Compilation

def selecting (type author status : String) : Bindings :=
  ⟨[(Vocabulary.postType, .value (.str type)), (Vocabulary.author, .value (.str author)),
    (Vocabulary.postStatus, .value (.str status))]⟩

theorem narrows_compile {arguments : Arguments} {type status : String} {author : Nat}
    (typed : type ≠ "" ∧ type ≠ Vocabulary.wildcard)
    (alike : ∀ name, arguments.get? name =
      (compile (Settings.layered .initial .empty)
        (selecting type (intText author) status)).get? name) :
    Store.Narrows arguments type author status := by
  have bound : postType (selecting type (intText author) status) = .str type := by
    have specific : ¬ wantsEveryType (.str type) = true := by
      simp [wantsEveryType, typed]
    exact if_neg specific
  have distinct : (selecting type (intText author) status).keys.Nodup := by
    change [Vocabulary.postType, Vocabulary.author, Vocabulary.postStatus].Nodup
    decide
  have absent : ∀ name, arguments.get? name = none → ∀ value, ¬ arguments.Gives name value := by
    intro name missing value given
    rw [Arguments.Gives, missing] at given
    cases given
  refine ⟨(alike _).trans ?_, (alike _).trans rfl, (alike _).trans rfl,
    absent _ ((alike _).trans rfl), absent _ ((alike _).trans rfl), (alike _).trans rfl⟩
  rw [get?_compile_postType distinct, bound]
  rfl

end Compilation

namespace Call

def selection (store : Store) (type : String) (author : Nat) (status : String) : List Call :=
  [.withStore store, .ofType type, .apply .author (Json.int author), .apply .status (.str status)]

variable {store : Store} {type status : String} {author : Nat}

theorem names_selection :
    ((selection store type author status).flatMap writes).map Write.name =
      [Vocabulary.postType, Vocabulary.author, Vocabulary.postStatus] := rfl

theorem configured_of_selection {call : Call} (member : call ∈ selection store type author status)
    (provider : Provider) : call.configured provider = provider := by
  simp only [selection, List.mem_cons, List.not_mem_nil, or_false] at member
  rcases member with rfl | rfl | rfl | rfl <;> rfl

theorem accepted_of_selection {call : Call} (member : call ∈ selection store type author status) :
    (Step.call call).Accepted := by
  simp only [selection, List.mem_cons, List.not_mem_nil, or_false] at member
  rcases member with rfl | rfl | rfl | rfl <;> exact trivial

end Call

namespace Session
variable {store : Store} {type status : String} {author : Nat} {calls : List Call}

theorem run_selection (told : calls.Perm (Call.selection store type author status)) :
    Session.run ⟨.initial, .fresh⟩ (calls.map .call) =
      .ok ⟨.initial, Bindings.writeAll .empty (calls.flatMap Call.writes), .layered .empty,
        some store, none⟩ := by
  have accepted : ∀ step ∈ calls.map Step.call, step.Accepted := by
    intro step member
    obtain ⟨call, made, rfl⟩ := List.mem_map.mp member
    exact Call.accepted_of_selection (told.mem_iff.mp made)
  have settled := Call.foldl_configured
    (fun call made => Call.configured_of_selection (told.mem_iff.mp made)) (.layered .empty)
  have stored : Call.lastOr Call.store? calls none = some store := by
    rw [Call.lastOr, (told.filterMap Call.store?).eq_singleton]
    rfl
  have unformatted : Call.lastOr Call.formatter? calls none = none := by
    rw [Call.lastOr, (told.filterMap Call.formatter?).eq_nil]
    rfl
  obtain ⟨session, ran⟩ := (@run_ok_iff ⟨.initial, .fresh⟩ (calls.map .call)).mpr accepted
  rw [ran, run_calls_eq ran]
  change Except.ok (Session.mk _ ⟨_, List.foldl _ (.layered .empty) calls, Call.lastOr _ calls none,
    Call.lastOr _ calls none⟩) = _
  rw [settled, stored, unformatted]
  rfl

theorem get?_compile_selection (told : calls.Perm (Call.selection store type author status))
    (lookup : Lookup) (name : String) :
    (compile lookup (Bindings.writeAll .empty (calls.flatMap Call.writes))).get? name =
      (compile lookup (Compilation.selecting type (intText author) (Text.trim status))).get?
        name := by
  have names := (told.flatMap_right Call.writes).map Write.name
  rw [Call.names_selection] at names
  have free : ∀ written ∈ calls.flatMap Call.writes,
      written.name ≠ Vocabulary.plainClauses ∧ written.name ≠ Vocabulary.pageSize := by
    have apart : ∀ name ∈ [Vocabulary.postType, Vocabulary.author, Vocabulary.postStatus],
        name ≠ Vocabulary.plainClauses ∧ name ≠ Vocabulary.pageSize := by
      decide
    intro written member
    exact apart _ (names.mem_iff.mp (List.mem_map_of_mem member))
  have distinct : (OrderedMap.empty : Bindings).keys.Nodup := List.nodup_nil
  have reordered := Call.Reordered.of_perm told (Call.names_selection ▸ by decide)
  exact Bindings.get?_compile_of_reordered distinct reordered.writes free lookup name

-- In whichever order a new query is told of a store, a type, an author and a
-- status, it shows the posts of the store that have all three, in the order of the
-- store. Blanks around the status do not count, and the author's id comes back
-- from its text whatever its size.
theorem posts_selected (store : Store) {type status : String} {author : Nat}
    (typed : type ≠ "" ∧ type ≠ "*" ∧ type ≠ "any") (small : author ≤ 18446744073709551615)
    (narrow : Text.trim status ≠ "any") {calls : List Call}
    (told : calls.Perm [.withStore store, .ofType type, .apply .author (Json.int author),
      .apply .status (.str status)]) :
    ∃ session, Session.run ⟨.initial, .fresh⟩ (calls.map .call) = .ok session ∧
      (session.query.ask session.shared .get).1 =
        .ok (.output (.posts (store.posts.filter fun post =>
          post.type = type ∧ post.author = author ∧ post.status = Text.trim status))) := by
  refine ⟨_, run_selection told, ?_⟩
  have narrows := Compilation.narrows_compile ⟨typed.1, typed.2.1⟩
    (get?_compile_selection told (Settings.layered .initial .empty))
  rw [Query.ask_reply]
  refine (Query.reply_all_of_arrays _ _ rfl rfl rfl _).trans ?_
  exact congrArg (Except.map _)
    (Store.get_of_narrows narrows (Int.ofNat_le.mpr small) typed.2.2 narrow store)

def draft (author : Nat) : Post :=
  { Post.published 1 "page" "Contact" default with author := author, status := "draft" }

def drafts : Store := ⟨[draft 18446744073709551614, draft 18446744073709551615]⟩

theorem drafts_selected :
    ∃ session,
      Session.run ⟨.initial, .fresh⟩
        [.call (.apply .status (.str " draft\n")),
          .call (.apply .author (Json.int 18446744073709551615)), .call (.ofType "page"),
          .call (.withStore drafts)] = .ok session ∧
      (session.query.ask session.shared .get).1 =
        .ok (.output (.posts [draft 18446744073709551615])) :=
  @posts_selected drafts "page" " draft\n" 18446744073709551615 (by decide) (Nat.le_refl _)
    (by decide) _ (List.reverse_perm _)

end Session
end ContentQuery
