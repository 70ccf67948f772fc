import ContentQuery.Proofs.TerminalAgreement

namespace ContentQuery

theorem OrderedMap.lookup_filter_names {α : Type} (keep : String → Bool)
    (entries : List (String × α)) (name : String) :
    (entries.filter fun entry => keep entry.1).lookup name =
      if keep name then entries.lookup name else none := by
  induction entries with
  | nil => simp
  | cons entry rest ih =>
    obtain ⟨key, value⟩ := entry
    by_cases here : name = key
    · subst here
      by_cases kept : keep name = true
      · simp [kept]
      · simp [kept, ih]
    · rw [lookup_cons_of_ne here, List.filter_cons]
      split
      · rw [lookup_cons_of_ne here, ih]
      · exact ih

namespace Arguments
variable (arguments : Arguments)

def unpaged : Arguments :=
  ⟨arguments.entries.filter fun entry =>
    entry.1 != Vocabulary.offset && entry.1 != Vocabulary.pageSize⟩

def turnedTo (size number : Nat) : Arguments :=
  (arguments.insertValue Vocabulary.offset (Json.int (number * size : Nat))).insertValue
    Vocabulary.pageSize (Json.int size)

theorem get?_unpaged (name : String) :
    arguments.unpaged.get? name =
      if name != Vocabulary.offset && name != Vocabulary.pageSize then arguments.get? name
      else none :=
  OrderedMap.lookup_filter_names
    (fun name => name != Vocabulary.offset && name != Vocabulary.pageSize) arguments.entries name

theorem value?_unpaged {name : String}
    (paging : name = Vocabulary.offset ∨ name = Vocabulary.pageSize) :
    arguments.unpaged.value? name = none := by
  rw [value?, get?_unpaged]
  rcases paging with rfl | rfl <;> rfl

theorem alike_unpaged : arguments.unpaged.AlikeBesidePaging arguments := by
  intro name noOffset noSize
  rw [get?_unpaged, if_pos (by simp [noOffset, noSize])]

end Arguments

namespace Store
variable (store : Store) (arguments : Arguments)

theorem get_unpaged : store.get arguments.unpaged = store.matching arguments := by
  have noOffset := arguments.value?_unpaged (.inl rfl)
  have noSize := arguments.value?_unpaged (.inr rfl)
  have whole : ∀ posts, page arguments.unpaged posts = .ok posts := by
    intro posts
    simp only [page, readId, readPageSize, noOffset, noSize]
    rfl
  rw [get, store.matching_congr arguments.alike_unpaged]
  cases store.matching arguments with
  | error failure => rfl
  | ok posts => exact whole posts

-- Turning page after page, up to the first one that is empty.
inductive Browsed (size : Nat) : Nat → List (List Post) → Prop where
  | ended {number : Nat} (empty : store.get (arguments.turnedTo size number) = .ok []) :
      Browsed size number []
  | turned {number : Nat} {page : List Post} {pages : List (List Post)}
      (shown : store.get (arguments.turnedTo size number) = .ok page) (filled : page ≠ [])
      (further : Browsed size (number + 1) pages) : Browsed size number (page :: pages)

variable {store arguments} {size : Nat}

theorem Browsed.unique {number : Nat} {pages others : List (List Post)}
    (browsed : Browsed store arguments size number pages)
    (again : Browsed store arguments size number others) : pages = others := by
  induction browsed generalizing others with
  | ended empty =>
    cases again with
    | ended _ => rfl
    | turned shown filled _ =>
      rw [empty] at shown
      cases shown
      exact absurd rfl filled
  | turned shown filled _ ih =>
    cases again with
    | ended empty =>
      rw [shown] at empty
      cases empty
      exact absurd rfl filled
    | turned shownAgain _ further =>
      rw [shown] at shownAgain
      cases shownAgain
      rw [ih further]

theorem reach_of_near {count number : Nat} (signed : (size : Int) ≤ Json.greatestSigned)
    (addressable : (count : Int) ≤ Json.greatestSigned) (near : number * size < count + size) :
    ((number * size : Nat) : Int) ≤ Json.greatestUnsigned := by
  unfold Json.greatestSigned at signed addressable
  unfold Json.greatestUnsigned
  omega

section Turning
variable (signed : (size : Int) ≤ Json.greatestSigned) {found : List Post}
  (matched : store.matching arguments = .ok found)
include signed matched

theorem query_turnedTo {number : Nat} (reach : ((number * size : Nat) : Int) ≤ Json.greatestUnsigned) :
    store.query (arguments.turnedTo size number) =
      .ok ⟨arguments.turnedTo size number, (found.drop (number * size)).take size, found.length⟩ := by
  have read : readId (arguments.insertValue Vocabulary.offset (Json.int (number * size : Nat)))
      Vocabulary.offset = .ok (some (number * size)) := by
    have held := idOf?_eq_some_iff.mpr
      (⟨reach, .inl rfl⟩ : HoldsId (Json.int (number * size : Nat)) (number * size))
    simp only [readId, Arguments.value?, Compilation.get?_insertValue, if_true, Option.bind_some,
      Argument.value?, held]
  have sized : (Json.int size).signed? = some (size : Int) := by
    refine signed?_eq_some_iff.mpr ⟨rfl, ?_, signed⟩
    unfold Json.leastSigned
    omega
  have alike := arguments.alike_insertValue (.inl rfl) (Json.int (number * size : Nat))
  rw [query_eq, Arguments.turnedTo, matching_insertPageSize, ← store.matching_congr alike, matched]
  change (page _ found).map _ = _
  have cut : onPage (number * size) size found = (found.drop (number * size)).take size := by
    rw [onPage, if_neg (by omega), Int.toNat_natCast]
  rw [page_insertPageSize _ sized, read, ← cut]
  rfl

theorem get_turnedTo {number : Nat} (reach : ((number * size : Nat) : Int) ≤ Json.greatestUnsigned) :
    store.get (arguments.turnedTo size number) =
      .ok ((found.drop (number * size)).take size) := by
  rw [get_eq_query, query_turnedTo signed matched reach]
  rfl

variable (positive : 1 ≤ size) (addressable : (found.length : Int) ≤ Json.greatestSigned)
include positive addressable

-- Every page up to the first empty one is near enough for an offset of 64 bits.
-- The recursion is on the number of matches that are still to be shown.
theorem browsed_from (number : Nat) (near : number * size < found.length + size) :
    ∃ pages, Browsed store arguments size number pages ∧
      pages.flatten = found.drop (number * size) ∧
      (∀ page ∈ pages.dropLast, page.length = size) ∧
      (number + pages.length) * size < found.length + size := by
  have shown := get_turnedTo signed matched (reach_of_near signed addressable near)
  by_cases past : found.length ≤ number * size
  · have none : found.drop (number * size) = [] := List.drop_eq_nil_of_le past
    rw [none, List.take_nil] at shown
    exact ⟨[], .ended shown, none.symm, nofun, near⟩
  · have next : (number + 1) * size = number * size + size := Nat.succ_mul number size
    obtain ⟨pages, browsed, rest, full, reach⟩ := browsed_from (number + 1) (by omega)
    have size_page : ((found.drop (number * size)).take size).length =
        min size (found.length - number * size) := by
      rw [List.length_take, List.length_drop]
    refine ⟨_, .turned shown ?_ browsed, ?_, ?_, ?_⟩
    · intro empty
      rw [empty, List.length_nil] at size_page
      omega
    · rw [List.flatten_cons, rest, next, ← List.drop_drop, List.take_append_drop]
    · cases browsed with
      | ended _ => nofun
      | @turned _ other others _ filled _ =>
        -- Another page follows, so this one is not cut short.
        have more : 0 < found.length - (number + 1) * size := by
          rw [← List.length_drop, ← rest, List.flatten_cons, List.length_append]
          exact Nat.lt_add_right _ (List.length_pos_iff.mpr filled)
        intro page member
        rcases List.mem_cons.mp member with rfl | later
        · omega
        · exact full page later
    · rw [List.length_cons, Nat.add_comm _ 1, ← Nat.add_assoc]
      exact reach
termination_by found.length - number * size

end Turning

-- Turned page by page, a store shows each match once and in order. The offsets of
-- the pages stay within 64 bits because no list in memory has 2 ^ 63 members.
theorem pages_partition (store : Store) (arguments : Arguments) {size : Nat} (positive : 1 ≤ size)
    (signed : (size : Int) ≤ Json.greatestSigned)
    (addressable : (store.posts.length : Int) ≤ Json.greatestSigned) {posts : List Post}
    (got : store.get arguments.unpaged = .ok posts) :
    posts = store.posts.filter (Selects arguments.unpaged ·) ∧
      ∃ pages, Browsed store arguments size 0 pages ∧
        (∀ others, Browsed store arguments size 0 others → others = pages) ∧
        pages.flatten = posts ∧ (∀ page ∈ pages.dropLast, page.length = size) ∧
        ∀ number ≤ pages.length, ∃ page, store.query (arguments.turnedTo size number) =
          .ok ⟨arguments.turnedTo size number, page, posts.length⟩ := by
  have matched : store.matching arguments = .ok posts := by
    rw [← get_unpaged, got]
  have selected : posts = store.posts.filter (Selects arguments.unpaged ·) := by
    rw [← store.matching_congr arguments.alike_unpaged] at matched
    rcases store.matching_cases arguments.unpaged with ⟨failure, -, failed⟩ | ⟨-, found⟩
    · rw [failed] at matched
      cases matched
    · rw [found] at matched
      cases matched
      rfl
  have fewer : posts.length ≤ store.posts.length := by
    rw [selected]
    exact List.length_filter_le _ _
  have addressed : (posts.length : Int) ≤ Json.greatestSigned := by omega
  obtain ⟨pages, browsed, whole, full, reach⟩ :=
    browsed_from signed matched positive addressed 0 (by omega)
  refine ⟨selected, pages, browsed, fun others again => again.unique browsed, ?_, full, ?_⟩
  · rw [whole, Nat.zero_mul, List.drop_zero]
  · intro number within
    have near : number * size < posts.length + size := by
      have := Nat.mul_le_mul_right size within
      rw [Nat.zero_add] at reach
      omega
    exact ⟨_, query_turnedTo signed matched (reach_of_near signed addressed near)⟩

theorem two_pages_of_one_post :
    (1 : Nat) ≤ 1 ∧ ((1 : Nat) : Int) ≤ Json.greatestSigned ∧
      (pages.posts.length : Int) ≤ Json.greatestSigned ∧
      ∃ first second, pages.get firstPage.unpaged = .ok [first, second] ∧
        Browsed pages firstPage 1 0 [[first], [second]] ∧
        ∃ page, pages.query (firstPage.turnedTo 1 2) = .ok ⟨firstPage.turnedTo 1 2, page, 2⟩ := by
  refine ⟨by decide, by decide, by decide, _, _, rfl, ?_⟩
  obtain ⟨-, shown, browsed, unique, -, -, counted⟩ :=
    @pages_partition pages firstPage 1 (by decide) (by decide) (by decide) _ rfl
  have turned := unique _ (.turned rfl (List.cons_ne_nil _ _)
    (.turned rfl (List.cons_ne_nil _ _) (.ended rfl)))
  subst turned
  exact ⟨browsed, counted 2 (by decide)⟩

end Store
end ContentQuery
