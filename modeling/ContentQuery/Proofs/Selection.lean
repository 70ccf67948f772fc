import ContentQuery.Output

namespace ContentQuery
namespace Arguments
variable {arguments : Arguments} {name : String} {value : Json}

-- A compound argument is not given as a value, so it counts as absent.
def Gives (arguments : Arguments) (name : String) (value : Json) : Prop :=
  arguments.get? name = some (.value value)

theorem value?_eq_some_iff : arguments.value? name = some value ↔ arguments.Gives name value := by
  unfold value? Gives
  cases arguments.get? name with
  | none => simp
  | some held => cases held <;> simp [Argument.value?]

theorem value?_eq_none_iff :
    arguments.value? name = none ↔ ∀ value, ¬ arguments.Gives name value := by
  simp only [← value?_eq_some_iff, Option.eq_none_iff_forall_ne_some, ne_eq]

theorem Gives.unique {other : Json} (given : arguments.Gives name value)
    (again : arguments.Gives name other) : value = other := by
  rw [Gives, given] at again
  cases again
  rfl

end Arguments

namespace Store

def Allows (value : Json) (actual : String) : Prop :=
  value = .null ∨ ∃ wanted, (wanted = Vocabulary.any ∨ wanted = actual) ∧
    (value = .str wanted ∨ ∃ items, value = .arr items ∧ .str wanted ∈ items)

-- An id is an integer of 64 bits, or its digits as a text with blanks around
-- them and at most a plus in front.
def HoldsId (value : Json) (id : Nat) : Prop :=
  id ≤ Json.greatestUnsigned ∧ (value = .int id ∨ ∃ text sign digits, value = .str text ∧
    Text.trimChars text.toList = sign ++ digits ∧ (sign = [] ∨ sign = ['+']) ∧
    Decimal.isDigits digits = true ∧ Decimal.digitsValue digits = id)

def HoldsSize (value : Json) (size : Int) : Prop :=
  value = .int size ∧ Json.leastSigned ≤ size ∧ size ≤ Json.greatestSigned

structure Selects (arguments : Arguments) (post : Post) : Prop where
  type : ∀ value, arguments.Gives Vocabulary.postType value → Allows value post.type
  status : ∀ value, arguments.Gives Vocabulary.postStatus value → Allows value post.status
  id : ∀ value, arguments.Gives Vocabulary.postId value → HoldsId value post.id
  author : ∀ value, arguments.Gives Vocabulary.author value → HoldsId value post.author

structure Paging (arguments : Arguments) (offset : Nat) (size : Int) : Prop where
  offset : (∀ value, ¬ arguments.Gives Vocabulary.offset value) ∧ offset = 0 ∨
    ∃ value, arguments.Gives Vocabulary.offset value ∧ HoldsId value offset
  size : (∀ value, ¬ arguments.Gives Vocabulary.pageSize value) ∧ size = -1 ∨
    ∃ value, arguments.Gives Vocabulary.pageSize value ∧ HoldsSize value size

def readOrder : List String :=
  [Vocabulary.postId, Vocabulary.author, Vocabulary.offset, Vocabulary.pageSize]

def Fault (arguments : Arguments) (name : String) (failure : QueryError) : Prop :=
  ∃ value, arguments.Gives name value ∧
    if name = Vocabulary.pageSize then
      (∀ size, ¬ HoldsSize value size) ∧ failure = .invalidPageSize value
    else (∀ id, ¬ HoldsId value id) ∧ failure = .invalidId name value

def FirstFault (arguments : Arguments) (failure : QueryError) : Prop :=
  ∃ before name after, readOrder = before ++ name :: after ∧ Fault arguments name failure ∧
    ∀ earlier ∈ before, ∀ other, ¬ Fault arguments earlier other

theorem accepts_iff {wanted actual : String} :
    accepts wanted actual = true ↔ wanted = Vocabulary.any ∨ wanted = actual := by
  simp [accepts]

theorem passes_iff_allows {value : Json} {actual : String} :
    passes (some value) actual = true ↔ Allows value actual := by
  cases value with
  | null => simp [passes, Allows]
  | str wanted => simp [passes, Allows, accepts_iff]
  | arr items =>
    simp only [passes, List.any_eq_true, Allows]
    constructor
    · rintro ⟨item, member, accepted⟩
      cases item with
      | str wanted => exact .inr ⟨wanted, accepts_iff.mp accepted, .inr ⟨items, rfl, member⟩⟩
      | null | bool _ | num _ | arr _ | obj _ => cases accepted
    · rintro (none | ⟨wanted, accepted, alone | ⟨_, same, member⟩⟩)
      · cases none
      · cases alone
      · cases same
        exact ⟨.str wanted, member, accepts_iff.mpr accepted⟩
  | bool _ | num _ | obj _ => simp [passes, Allows]

theorem passes_iff {arguments : Arguments} {name actual : String} :
    passes (arguments.value? name) actual = true ↔
      ∀ value, arguments.Gives name value → Allows value actual := by
  cases held : arguments.value? name with
  | none =>
    have absent := Arguments.value?_eq_none_iff.mp held
    simp [passes, absent]
  | some value =>
    have given := Arguments.value?_eq_some_iff.mp held
    rw [passes_iff_allows]
    constructor
    · intro allowed other again
      cases given.unique again
      exact allowed
    · exact fun allowed => allowed value given

theorem idOfText_of_digits {text digits : List Char}
    (signed : text = digits ∧ (∀ rest, text ≠ '+' :: rest) ∨ text = '+' :: digits) (id : Nat) :
    idOfText text = some id ↔
      id ≤ Json.greatestUnsigned ∧ Decimal.isDigits digits = true ∧
        Decimal.digitsValue digits = id := by
  have read : idOfText text =
      if Decimal.isDigits digits ∧ Decimal.digitsValue digits ≤ 18446744073709551615 then
        some (Decimal.digitsValue digits)
      else none := by
    rcases signed with ⟨rfl, bare⟩ | rfl
    · unfold idOfText
      split
      · exact absurd rfl (bare _)
      · rfl
    · rfl
  rw [read, Option.ite_none_right_eq_some, Option.some.injEq]
  unfold Json.greatestUnsigned
  constructor
  · rintro ⟨⟨whole, small⟩, rfl⟩
    exact ⟨by omega, whole, rfl⟩
  · rintro ⟨small, whole, rfl⟩
    exact ⟨⟨whole, by omega⟩, rfl⟩

theorem idOfText_eq_some_iff {text : List Char} {id : Nat} :
    idOfText text = some id ↔ id ≤ Json.greatestUnsigned ∧ ∃ sign digits, text = sign ++ digits ∧
      (sign = [] ∨ sign = ['+']) ∧ Decimal.isDigits digits = true ∧
      Decimal.digitsValue digits = id := by
  constructor
  · intro read
    by_cases plus : ∃ rest, text = '+' :: rest
    · obtain ⟨rest, rfl⟩ := plus
      obtain ⟨small, held⟩ := (idOfText_of_digits (.inr rfl) id).mp read
      exact ⟨small, ['+'], rest, rfl, .inr rfl, held⟩
    · have bare := fun rest same => plus ⟨rest, same⟩
      obtain ⟨small, held⟩ := (idOfText_of_digits (.inl ⟨rfl, bare⟩) id).mp read
      exact ⟨small, [], text, rfl, .inl rfl, held⟩
  · rintro ⟨small, sign, digits, rfl, rfl | rfl, held⟩
    · refine (idOfText_of_digits (.inl ⟨rfl, ?_⟩) id).mpr ⟨small, held⟩
      rintro rest rfl
      -- A plus is not a digit.
      cases held.1
    · exact (idOfText_of_digits (.inr rfl) id).mpr ⟨small, held⟩

theorem idOf?_eq_some_iff {value : Json} {id : Nat} : idOf? value = some id ↔ HoldsId value id := by
  cases value with
  | num value =>
    cases value with
    | int value =>
      simp only [idOf?, Json.unsigned?, HoldsId, Json.int, Option.ite_none_right_eq_some,
        Option.some.injEq, Json.num.injEq, Number.int.injEq, reduceCtorEq, false_and, exists_false,
        or_false]
      unfold Json.greatestUnsigned
      omega
    | real _ => simp [idOf?, Json.unsigned?, HoldsId, Json.int]
  | str text =>
    rw [idOf?, idOfText_eq_some_iff, HoldsId]
    simp [Json.int]
  | null | bool _ | arr _ | obj _ => simp [idOf?, HoldsId, Json.int]

example : idOf? (.str " +07 ") = some 7 := by decide

theorem signed?_eq_some_iff {value : Json} {size : Int} :
    value.signed? = some size ↔ HoldsSize value size := by
  cases value with
  | num value =>
    cases value with
    | int value =>
      simp only [Json.signed?, HoldsSize, Json.int, Option.ite_none_right_eq_some,
        Option.some.injEq, Json.num.injEq, Number.int.injEq]
      unfold Json.leastSigned Json.greatestSigned
      omega
    | real _ => simp [Json.signed?, HoldsSize, Json.int]
  | null | bool _ | str _ | arr _ | obj _ => simp [Json.signed?, HoldsSize, Json.int]

theorem HoldsId.unique {value : Json} {id other : Nat} (held : HoldsId value id)
    (again : HoldsId value other) : id = other := by
  rw [← idOf?_eq_some_iff] at held again
  rw [held] at again
  cases again
  rfl

theorem holds_iff {arguments : Arguments} {name : String} {actual : Nat} :
    ((arguments.value? name).all fun value => idOf? value == some actual) = true ↔
      ∀ value, arguments.Gives name value → HoldsId value actual := by
  simp only [Option.all_eq_true, Arguments.value?_eq_some_iff, beq_iff_eq, idOf?_eq_some_iff]

instance (arguments : Arguments) (post : Post) : Decidable (Selects arguments post) :=
  decidable_of_iff
    ((passes (arguments.value? Vocabulary.postType) post.type = true ∧
        passes (arguments.value? Vocabulary.postStatus) post.status = true) ∧
      ((arguments.value? Vocabulary.postId).all fun value => idOf? value == some post.id) = true ∧
      ((arguments.value? Vocabulary.author).all fun value =>
        idOf? value == some post.author) = true)
    ⟨fun ⟨⟨type, status⟩, id, author⟩ =>
        ⟨passes_iff.mp type, passes_iff.mp status, holds_iff.mp id, holds_iff.mp author⟩,
      fun selected => ⟨⟨passes_iff.mpr selected.type, passes_iff.mpr selected.status⟩,
        holds_iff.mpr selected.id, holds_iff.mpr selected.author⟩⟩

def Reads (arguments : Arguments) (name : String) : Option Nat → Prop
  | none => ∀ value, ¬ arguments.Gives name value
  | some id => ∃ value, arguments.Gives name value ∧ HoldsId value id

theorem not_fault_of_absent {arguments : Arguments} {name : String}
    (absent : ∀ value, ¬ arguments.Gives name value) (failure : QueryError) :
    ¬ Fault arguments name failure :=
  fun ⟨value, given, _⟩ => absent value given

theorem not_fault_of_id {arguments : Arguments} {name : String} {value : Json} {id : Nat}
    (other : name ≠ Vocabulary.pageSize) (given : arguments.Gives name value)
    (held : HoldsId value id) (failure : QueryError) : ¬ Fault arguments name failure := by
  rintro ⟨faulty, again, fault⟩
  cases given.unique again
  rw [if_neg other] at fault
  exact fault.1 id held

theorem not_fault_of_size {arguments : Arguments} {value : Json} {size : Int}
    (given : arguments.Gives Vocabulary.pageSize value) (held : HoldsSize value size)
    (failure : QueryError) : ¬ Fault arguments Vocabulary.pageSize failure := by
  rintro ⟨faulty, again, fault⟩
  cases given.unique again
  rw [if_pos rfl] at fault
  exact fault.1 size held

theorem given_cases {α : Type} {read? : Json → Option α} {Holds : Json → α → Prop}
    (reads : ∀ value read, read? value = some read ↔ Holds value read)
    (arguments : Arguments) (name : String) :
    (arguments.value? name = none ∧ ∀ value, ¬ arguments.Gives name value) ∨
      ∃ value, arguments.value? name = some value ∧ arguments.Gives name value ∧
        ((read? value = none ∧ ∀ read, ¬ Holds value read) ∨
          ∃ read, read? value = some read ∧ Holds value read) := by
  cases held : arguments.value? name with
  | none => exact .inl ⟨rfl, Arguments.value?_eq_none_iff.mp held⟩
  | some value =>
    refine .inr ⟨value, rfl, Arguments.value?_eq_some_iff.mp held, ?_⟩
    cases read : read? value with
    | none =>
      refine .inl ⟨rfl, fun other holds => ?_⟩
      rw [(reads value other).mpr holds] at read
      cases read
    | some other => exact .inr ⟨other, rfl, (reads value other).mp read⟩

theorem readId_cases (arguments : Arguments) {name : String} (other : name ≠ Vocabulary.pageSize) :
    (∃ failure, readId arguments name = .error failure ∧ Fault arguments name failure) ∨
      ∃ read, readId arguments name = .ok read ∧ Reads arguments name read ∧
        ∀ failure, ¬ Fault arguments name failure := by
  rcases given_cases @idOf?_eq_some_iff arguments name with
    ⟨held, absent⟩ | ⟨value, held, given, ⟨unread, wrong⟩ | ⟨id, read, holds⟩⟩
  · exact .inr ⟨none, by simp only [readId, held], absent, not_fault_of_absent absent⟩
  · refine .inl ⟨.invalidId name value, by simp only [readId, held, unread], value, given, ?_⟩
    rw [if_neg other]
    exact ⟨wrong, rfl⟩
  · exact .inr ⟨some id, by simp only [readId, held, read], ⟨value, given, holds⟩,
      not_fault_of_id other given holds⟩

theorem readPageSize_cases (arguments : Arguments) :
    (∃ failure, readPageSize arguments = .error failure ∧
        Fault arguments Vocabulary.pageSize failure) ∨
      ∃ size, readPageSize arguments = .ok size ∧
        ((∀ value, ¬ arguments.Gives Vocabulary.pageSize value) ∧ size = -1 ∨
          ∃ value, arguments.Gives Vocabulary.pageSize value ∧ HoldsSize value size) ∧
        ∀ failure, ¬ Fault arguments Vocabulary.pageSize failure := by
  rcases given_cases @signed?_eq_some_iff arguments Vocabulary.pageSize with
    ⟨held, absent⟩ | ⟨value, held, given, ⟨unread, wrong⟩ | ⟨size, read, holds⟩⟩
  · exact .inr ⟨-1, by simp only [readPageSize, held], .inl ⟨absent, rfl⟩,
      not_fault_of_absent absent⟩
  · refine .inl ⟨.invalidPageSize value, by simp only [readPageSize, held, unread], value, given,
      ?_⟩
    rw [if_pos rfl]
    exact ⟨wrong, rfl⟩
  · exact .inr ⟨size, by simp only [readPageSize, held, read], .inr ⟨value, given, holds⟩,
      not_fault_of_size given holds⟩

theorem isWanted_iff {arguments : Arguments} {name : String} {read : Option Nat} {actual : Nat}
    (reads : Reads arguments name read) :
    isWanted read actual = true ↔ ∀ value, arguments.Gives name value → HoldsId value actual := by
  cases read with
  | none => exact ⟨fun _ value given => absurd given (reads value), fun _ => rfl⟩
  | some id =>
    obtain ⟨value, given, held⟩ := reads
    rw [isWanted, beq_iff_eq]
    constructor
    · rintro rfl other again
      exact given.unique again ▸ held
    · exact fun holds => held.unique (holds value given)

theorem isMatch_eq {arguments : Arguments} {id author : Option Nat}
    (ids : Reads arguments Vocabulary.postId id)
    (authors : Reads arguments Vocabulary.author author)
    (post : Post) : isMatch arguments id author post = decide (Selects arguments post) := by
  rw [Bool.eq_iff_iff, decide_eq_true_iff]
  simp only [isMatch, Bool.and_eq_true, passes_iff, isWanted_iff ids, isWanted_iff authors]
  constructor
  · rintro ⟨⟨⟨type, status⟩, id⟩, author⟩
    exact ⟨type, status, id, author⟩
  · rintro ⟨type, status, id, author⟩
    exact ⟨⟨⟨type, status⟩, id⟩, author⟩

def onPage (offset : Nat) (size : Int) (posts : List Post) : List Post :=
  if size < 0 then posts.drop offset else (posts.drop offset).take size.toNat

theorem length_onPage_le (offset : Nat) (size : Int) (posts : List Post) :
    (onPage offset size posts).length ≤ posts.length := by
  unfold onPage
  split
  · exact (List.drop_sublist offset posts).length_le
  · exact ((List.take_sublist _ _).trans (List.drop_sublist offset posts)).length_le

theorem get_eq_query (store : Store) (arguments : Arguments) :
    store.get arguments = (store.query arguments).map QueryResult.posts := by
  unfold get query
  cases store.matching arguments with
  | error failure => rfl
  | ok posts =>
    change page arguments posts = Except.map _ (page arguments posts >>= _)
    cases page arguments posts <;> rfl

theorem FirstFault.kind {arguments : Arguments} {failure : QueryError}
    (first : FirstFault arguments failure) : failure.kind = .store := by
  obtain ⟨_, _, _, _, ⟨value, -, fault⟩, _⟩ := first
  split at fault <;> rw [fault.2] <;> rfl

-- A fault of two arguments that are read one after the other: the second is not
-- looked at when the first is at fault.
def FaultAmong (first second : String) (arguments : Arguments) (failure : QueryError) : Prop :=
  Fault arguments first failure ∨
    (∀ other, ¬ Fault arguments first other) ∧ Fault arguments second failure

theorem not_faultAmong_iff {first second : String} {arguments : Arguments} :
    (∀ failure, ¬ FaultAmong first second arguments failure) ↔
      (∀ failure, ¬ Fault arguments first failure) ∧ ∀ failure, ¬ Fault arguments second failure := by
  constructor
  · intro faultless
    have noFirst : ∀ failure, ¬ Fault arguments first failure :=
      fun failure fault => faultless failure (.inl fault)
    exact ⟨noFirst, fun failure fault => faultless failure (.inr ⟨noFirst, fault⟩)⟩
  · rintro ⟨noFirst, noSecond⟩ failure (fault | ⟨-, fault⟩)
    · exact noFirst failure fault
    · exact noSecond failure fault

theorem matching_cases (store : Store) (arguments : Arguments) :
    (∃ failure, FaultAmong Vocabulary.postId Vocabulary.author arguments failure ∧
        store.matching arguments = .error failure) ∨
      (∀ failure, ¬ FaultAmong Vocabulary.postId Vocabulary.author arguments failure) ∧
        store.matching arguments = .ok (store.posts.filter (Selects arguments ·)) := by
  unfold matching
  rcases readId_cases arguments (by decide : Vocabulary.postId ≠ Vocabulary.pageSize) with
    ⟨failure, failed, fault⟩ | ⟨id, gotId, ids, noId⟩
  · exact .inl ⟨failure, .inl fault, by rw [failed]; rfl⟩
  rcases readId_cases arguments (by decide : Vocabulary.author ≠ Vocabulary.pageSize) with
    ⟨failure, failed, fault⟩ | ⟨author, gotAuthor, authors, noAuthor⟩
  · exact .inl ⟨failure, .inr ⟨noId, fault⟩, by rw [gotId, failed]; rfl⟩
  have same : isMatch arguments id author = fun post => decide (Selects arguments post) :=
    funext (isMatch_eq ids authors)
  refine .inr ⟨not_faultAmong_iff.mpr ⟨noId, noAuthor⟩, ?_⟩
  rw [gotId, gotAuthor, ← same]
  rfl

theorem page_cases (arguments : Arguments) (posts : List Post) :
    (∃ failure, FaultAmong Vocabulary.offset Vocabulary.pageSize arguments failure ∧
        page arguments posts = .error failure) ∨
      (∀ failure, ¬ FaultAmong Vocabulary.offset Vocabulary.pageSize arguments failure) ∧
        ∃ offset size, Paging arguments offset size ∧
          page arguments posts = .ok (onPage offset size posts) := by
  unfold page
  rcases readId_cases arguments (by decide : Vocabulary.offset ≠ Vocabulary.pageSize) with
    ⟨failure, failed, fault⟩ | ⟨offset, gotOffset, offsets, noOffset⟩
  · exact .inl ⟨failure, .inl fault, by rw [failed]; rfl⟩
  rcases readPageSize_cases arguments with ⟨failure, failed, fault⟩ | ⟨size, gotSize, sizes, noSize⟩
  · exact .inl ⟨failure, .inr ⟨noOffset, fault⟩, by rw [gotOffset, failed]; rfl⟩
  refine .inr ⟨not_faultAmong_iff.mpr ⟨noOffset, noSize⟩, offset.getD 0, size, ⟨?_, sizes⟩, ?_⟩
  · cases offset with
    | none => exact .inl ⟨offsets, rfl⟩
    | some id => exact .inr offsets
  · rw [gotOffset, gotSize]
    rfl

theorem query_eq (store : Store) (arguments : Arguments) :
    store.query arguments = (store.matching arguments).bind fun posts =>
      (page arguments posts).map fun shown => ⟨arguments, shown, posts.length⟩ := by
  unfold query
  cases store.matching arguments with
  | error failure => rfl
  | ok posts =>
    change (page arguments posts >>= _) = (page arguments posts).map _
    cases page arguments posts <;> rfl

theorem query_cases (store : Store) (arguments : Arguments) :
    (∃ failure, FirstFault arguments failure ∧ store.query arguments = .error failure) ∨
      (∀ name ∈ readOrder, ∀ failure, ¬ Fault arguments name failure) ∧
        ∃ offset size, Paging arguments offset size ∧
          store.query arguments =
            .ok ⟨arguments, onPage offset size (store.posts.filter (Selects arguments ·)),
              (store.posts.filter (Selects arguments ·)).length⟩ := by
  rw [query_eq]
  rcases store.matching_cases arguments with ⟨failure, fault, failed⟩ | ⟨matched, found⟩
  · refine .inl ⟨failure, ?_, by rw [failed]; rfl⟩
    rcases fault with fault | ⟨noId, fault⟩
    · exact ⟨[], _, _, rfl, fault, nofun⟩
    · exact ⟨[Vocabulary.postId], _, _, rfl, fault, by simpa using noId⟩
  obtain ⟨noId, noAuthor⟩ := not_faultAmong_iff.mp matched
  rw [found]
  rcases page_cases arguments (store.posts.filter (Selects arguments ·)) with
    ⟨failure, fault, failed⟩ | ⟨paged, offset, size, paging, shown⟩
  · refine .inl ⟨failure, ?_, ?_⟩
    · rcases fault with fault | ⟨noOffset, fault⟩
      · exact ⟨[Vocabulary.postId, Vocabulary.author], _, _, rfl, fault,
          by simpa using ⟨noId, noAuthor⟩⟩
      · exact ⟨[Vocabulary.postId, Vocabulary.author, Vocabulary.offset], _, _, rfl, fault,
          by simpa using ⟨noId, noAuthor, noOffset⟩⟩
    · change (page arguments _).map _ = _
      rw [failed]
      rfl
  · obtain ⟨noOffset, noSize⟩ := not_faultAmong_iff.mp paged
    refine .inr ⟨by simpa [readOrder] using ⟨noId, noAuthor, noOffset, noSize⟩, offset, size,
      paging, ?_⟩
    change (page arguments _).map _ = _
    rw [shown]
    rfl

-- Both ways to ask, and each format that asks, fail alike or answer from the same
-- page of the same matches, which stand in the order of the store.
theorem answers_select_posts (store : Store) (arguments : Arguments) :
    (∃ failure, FirstFault arguments failure ∧ failure.kind = .store ∧
      store.get arguments = .error failure ∧ store.query arguments = .error failure ∧
      ∀ format ∈ [Format.posts, .count, .query], format.ask store arguments = .error failure) ∨
    (∀ name ∈ readOrder, ∀ failure, ¬ Fault arguments name failure) ∧
      ∃ offset size, Paging arguments offset size ∧
        let selected := store.posts.filter (Selects arguments ·)
        let posts :=
          if size < 0 then selected.drop offset else (selected.drop offset).take size.toNat
        store.get arguments = .ok posts ∧
          store.query arguments = .ok ⟨arguments, posts, selected.length⟩ ∧
          posts.length ≤ selected.length ∧
          Format.posts.ask store arguments = .ok (.posts posts) ∧
          Format.count.ask store arguments = .ok (.count selected.length) ∧
          Format.query.ask store arguments = .ok (.query ⟨arguments, posts, selected.length⟩) := by
  have got := store.get_eq_query arguments
  rcases store.query_cases arguments with
    ⟨failure, first, asked⟩ | ⟨readable, offset, size, paging, asked⟩
  · rw [asked] at got
    refine .inl ⟨failure, first, first.kind, got, asked, fun format member => ?_⟩
    simp only [List.mem_cons, List.not_mem_nil, or_false] at member
    rcases member with rfl | rfl | rfl
    · rw [Format.ask, got]
      rfl
    · rw [Format.ask, asked]
      rfl
    · rw [Format.ask, asked]
      rfl
  · rw [asked] at got
    refine .inr ⟨readable, offset, size, paging, got, asked, length_onPage_le offset size _, ?_⟩
    refine ⟨?_, ?_, ?_⟩
    · rw [Format.ask, got]
      rfl
    · rw [Format.ask, asked]
      rfl
    · rw [Format.ask, asked]
      rfl

def pages : Store :=
  ⟨[.published 1 "page" "About" default, .published 2 "post" "News" default,
    .published 3 "page" "Contact" default]⟩

def firstPage : Arguments :=
  .ofList [(Vocabulary.postType, .value (.arr [.int 1, .str "page"])),
    (Vocabulary.pageSize, .value (.int 1)), (Vocabulary.author, .clauses ⟨[], none⟩)]

def nullId : Arguments :=
  .ofList [(Vocabulary.offset, .value (.str "all")), (Vocabulary.postId, .value .null)]

theorem first_page_and_null_id :
    (∃ posts, pages.get firstPage = .ok posts ∧ posts.length ≤ 2 ∧
      Format.posts.ask pages firstPage = .ok (.posts posts) ∧
      Format.count.ask pages firstPage = .ok (.count 2)) ∧
    pages.query nullId = .error (.invalidId Vocabulary.postId .null) ∧
      Format.count.ask pages nullId = .error (.invalidId Vocabulary.postId .null) := by
  constructor
  · rcases answers_select_posts pages firstPage with
      ⟨failure, -, -, failed, -⟩ | ⟨-, offset, size, -, got, -, fits, asked, counted, -⟩
    · cases failed
    · exact ⟨_, got, fits, asked, counted⟩
  · rcases answers_select_posts pages nullId with
      ⟨failure, -, -, failed, asked, formats⟩ | ⟨-, offset, size, -, got, -⟩
    · cases failed
      exact ⟨asked, formats .count (by decide)⟩
    · cases got

end Store
end ContentQuery
