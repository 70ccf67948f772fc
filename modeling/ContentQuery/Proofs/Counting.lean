import ContentQuery.Proofs.Selection

namespace ContentQuery

namespace Arguments

def AlikeBesidePaging (left right : Arguments) : Prop :=
  ∀ name, name ≠ Vocabulary.offset → name ≠ Vocabulary.pageSize → left.get? name = right.get? name

theorem AlikeBesidePaging.value? {left right : Arguments} (alike : left.AlikeBesidePaging right)
    {name : String} (paging : name ≠ Vocabulary.offset ∧ name ≠ Vocabulary.pageSize) :
    left.value? name = right.value? name := by
  rw [Arguments.value?, Arguments.value?, alike name paging.1 paging.2]

theorem alike_insertValue (arguments : Arguments) {name : String}
    (paging : name = Vocabulary.offset ∨ name = Vocabulary.pageSize) (value : Json) :
    arguments.AlikeBesidePaging (arguments.insertValue name value) := by
  intro other noOffset noSize
  rcases paging with rfl | rfl
  · exact (OrderedMap.get?_insert_of_ne arguments noOffset (.value value)).symm
  · exact (OrderedMap.get?_insert_of_ne arguments noSize (.value value)).symm

end Arguments

namespace Store

theorem matching_congr (store : Store) {left right : Arguments}
    (alike : left.AlikeBesidePaging right) : store.matching left = store.matching right := by
  have ids : ∀ name, name ≠ Vocabulary.offset ∧ name ≠ Vocabulary.pageSize →
      readId left name = readId right name := by
    intro name paging
    rw [readId, readId, alike.value? paging]
  have same : isMatch left = isMatch right := by
    funext id author post
    rw [isMatch, isMatch, alike.value? (by decide : Vocabulary.postType ≠ _ ∧ _),
      alike.value? (by decide : Vocabulary.postStatus ≠ _ ∧ _)]
  rw [matching, matching, ids Vocabulary.postId (by decide), ids Vocabulary.author (by decide), same]

theorem ask_count (store : Store) (asked : Arguments) :
    Format.count.ask store asked = (store.matching asked).bind fun posts =>
      (page asked posts).map fun _ => .count posts.length := by
  rw [Format.ask, query_eq]
  cases store.matching asked with
  | error failure => rfl
  | ok posts =>
    change ((page asked posts).map _).map _ = (page asked posts).map _
    cases page asked posts <;> rfl

-- The page does not show in the number, but it is read all the same: a page that
-- cannot be read fails the count.
theorem count_of_matching {store : Store} {asked : Arguments} {posts : List Post}
    (matched : store.matching asked = .ok posts) :
    (∃ failure, FaultAmong Vocabulary.offset Vocabulary.pageSize asked failure ∧
        Format.count.ask store asked = .error failure) ∨
      (∀ failure, ¬ FaultAmong Vocabulary.offset Vocabulary.pageSize asked failure) ∧
        Format.count.ask store asked = .ok (.count posts.length) := by
  have counted : Format.count.ask store asked = (page asked posts).map fun _ => .count posts.length := by
    rw [ask_count, matched]
    rfl
  rcases page_cases asked posts with ⟨failure, fault, failed⟩ | ⟨paged, offset, size, -, shown⟩
  · exact .inl ⟨failure, fault, by rw [counted, failed]; rfl⟩
  · exact .inr ⟨paged, by rw [counted, shown]; rfl⟩

-- Two counts whose arguments differ in the page alone: both fail over the same
-- id or author, or the number is the same and each fails just when its own page
-- cannot be read.
theorem counts_alike (store : Store) {left right : Arguments}
    (alike : left.AlikeBesidePaging right) :
    (∃ failure, FaultAmong Vocabulary.postId Vocabulary.author left failure ∧
        Format.count.ask store left = .error failure ∧
        Format.count.ask store right = .error failure) ∨
      ∃ found, found = (store.posts.filter (Selects left ·)).length ∧
        ∀ asked ∈ [left, right],
          (∃ failure, FaultAmong Vocabulary.offset Vocabulary.pageSize asked failure ∧
              Format.count.ask store asked = .error failure) ∨
            (∀ failure, ¬ FaultAmong Vocabulary.offset Vocabulary.pageSize asked failure) ∧
              Format.count.ask store asked = .ok (.count found) := by
  have same := store.matching_congr alike
  rcases store.matching_cases left with ⟨failure, fault, failed⟩ | ⟨-, matched⟩
  · have alsoFailed := same.symm.trans failed
    refine .inl ⟨failure, fault, ?_, ?_⟩
    · rw [ask_count, failed]
      rfl
    · rw [ask_count, alsoFailed]
      rfl
  · refine .inr ⟨_, rfl, ?_⟩
    intro asked member
    simp only [List.mem_cons, List.not_mem_nil, or_false] at member
    rcases member with rfl | rfl
    · exact count_of_matching matched
    · exact count_of_matching (same.symm.trans matched)

theorem two_counted_on_any_page :
    firstPage.AlikeBesidePaging (firstPage.insertValue Vocabulary.offset (.str "2")) ∧
      Format.count.ask pages firstPage = .ok (.count 2) ∧
      Format.count.ask pages (firstPage.insertValue Vocabulary.offset (.str "2")) = .ok (.count 2) := by
  have alike := firstPage.alike_insertValue (.inl rfl) (.str "2")
  refine ⟨alike, ?_⟩
  rcases counts_alike pages alike with ⟨failure, -, failed, -⟩ | ⟨found, number, counted⟩
  · cases failed
  · have two : found = 2 := number
    subst two
    constructor
    · rcases counted firstPage (by simp) with ⟨failure, -, failed⟩ | ⟨-, counted⟩
      · cases failed
      · exact counted
    · rcases counted (firstPage.insertValue Vocabulary.offset (.str "2"))
        (by simp [Arguments.insertValue]) with ⟨failure, -, failed⟩ | ⟨-, counted⟩
      · cases failed
      · exact counted

theorem count_lost_to_offset :
    Format.count.ask pages .empty = .ok (.count 3) ∧
      Format.count.ask pages (Arguments.insertValue .empty Vocabulary.offset (Json.int (-1))) =
        .error (.invalidId Vocabulary.offset (Json.int (-1))) :=
  ⟨rfl, rfl⟩

end Store
end ContentQuery
