import ContentQuery.Proofs.TermMatches

namespace ContentQuery.Filter
open Text

def Read.left {α : Type} : Read α → List Char
  | .ok (_, rest) => rest
  | .error stop => stop.rest

section Remainders
variable {α β : Type}

theorem left_map (read : Read α) (f : α → β) :
    Read.left (read.map fun (value, rest) => (f value, rest)) = Read.left read := by
  cases read <;> rfl

theorem left_bind {text : List Char} {read : Except Stop (α × List Char)}
    {next : α × List Char → Except Stop (β × List Char)} (first : Read.left read <:+ text)
    (second : ∀ value rest, Read.left (next (value, rest)) <:+ rest) :
    Read.left (read >>= next : Except Stop (β × List Char)) <:+ text := by
  cases read with
  | error stop => exact first
  | ok taken => exact (second taken.1 taken.2).trans first

theorem takeRun_left (keep : Char → Bool) (text : List Char) :
    Read.left (takeRun keep text) <:+ text := by
  unfold takeRun
  split
  · exact List.suffix_rfl
  · exact List.dropWhile_suffix keep

theorem takeWord_left (text : List Char) : Read.left (takeWord text) <:+ text := by
  unfold takeWord
  rw [left_map]
  exact takeRun_left isWordChar text

theorem takeIdentifier_left (text : List Char) : Read.left (takeIdentifier text) <:+ text := by
  unfold takeIdentifier
  rw [left_map]
  exact takeRun_left isIdentifierChar text

theorem takeWord_of_takeItem_error {text : List Char} {stop : Stop}
    (failed : takeItem text = .error stop) : takeWord text = .error stop := by
  unfold takeItem at failed
  split at failed
  · split at failed
    · cases failed
    · exact failed
  · split at failed
    · cases failed
    · exact failed
  · exact failed

theorem takeItem_left (text : List Char) : Read.left (takeItem text) <:+ text := by
  cases read : takeItem text with
  | ok taken =>
    obtain ⟨item, _, whole⟩ := exists_item_of_takeItem read
    exact ⟨item.chars, whole.symm⟩
  | error stop =>
    rw [← takeWord_of_takeItem_error read]
    exact takeWord_left text

-- A list that does not close is given up as a whole: then the bracket is where
-- an item was wanted.
theorem takeValue_left (text : List Char) : Read.left (takeValue text) <:+ text := by
  refine List.IsSuffix.trans ?_ (List.dropWhile_suffix isSpace)
  change Read.left (takeValue text) <:+ skipSpace text
  unfold takeValue
  simp only
  split
  · rename_i taken listed
    obtain ⟨listing, _, whole⟩ := exists_listing_of_takeList listed
    exact ⟨listing.chars, whole.symm⟩
  · exact takeItem_left (skipSpace text)

theorem suffix_of_takeToken {tokens : List (List Char)} {token text rest : List Char}
    (taken : takeToken tokens text = some (token, rest)) : rest <:+ text := by
  obtain ⟨letters, _, whole⟩ := after?_eq_some_iff.mp (mem_of_takeToken taken).2
  exact ⟨letters, whole.symm⟩

theorem takeOperator_left (text : List Char) : Read.left (takeOperator text) <:+ text := by
  unfold takeOperator
  split
  · rename_i symbol rest taken
    exact suffix_of_takeToken taken
  · split
    · exact List.suffix_rfl
    · rename_i word rest taken
      split
      · exact suffix_of_takeToken taken
      · exact suffix_of_takeToken taken

theorem takeOperation_left (text : List Char) : Read.left (takeOperation text) <:+ text := by
  unfold takeOperation
  refine List.IsSuffix.trans ?_ (List.dropWhile_suffix isSpace)
  apply left_bind (takeOperator_left (skipSpace text))
  intro operator rest
  apply left_bind (takeValue_left rest)
  intro value rest
  exact List.suffix_rfl

theorem takeComparison_left (text : List Char) : Read.left (takeComparison text) <:+ text := by
  unfold takeComparison
  apply left_bind (takeIdentifier_left text)
  intro target rest
  apply left_bind (takeOperation_left rest)
  intro operation rest
  exact List.suffix_rfl

theorem takeMetaComparison_left (text : List Char) :
    Read.left (takeMetaComparison text) <:+ text := by
  unfold takeMetaComparison
  apply left_bind (takeComparison_left text)
  intro comparison rest
  obtain ⟨written, _, whole⟩ := exists_suffix_of_takeComparator (rfl : takeComparator rest = _)
  exact ⟨MetaPhrase.suffix written, whole.symm⟩

theorem takeDot_left (text : List Char) : Read.left (takeDot text) <:+ text := by
  unfold takeDot
  split
  · exact List.suffix_cons '.' _
  · exact List.suffix_rfl

theorem takeTerms_left (text : List Char) : Read.left (takeTerms text) <:+ text := by
  unfold takeTerms
  split
  · split
    · exact takeValue_left _
    · exact List.suffix_rfl
  · exact List.suffix_rfl

-- When the operator form fails, the text behind the field is read once more from
-- its start, so the place reported is that of the second attempt.
theorem takeTermMatch_left (text : List Char) : Read.left (takeTermMatch text) <:+ text := by
  unfold takeTermMatch
  apply left_bind (takeIdentifier_left text)
  intro taxonomy rest
  apply left_bind (takeDot_left rest)
  intro _ rest
  apply left_bind (takeIdentifier_left rest)
  intro field rest
  simp only
  split
  · rename_i operator terms left compared
    have operation := takeOperation_left rest
    rw [compared] at operation
    exact operation
  · apply left_bind (takeTerms_left rest)
    intro terms rest
    exact List.suffix_rfl

end Remainders

section Positions

theorem byteLength_append (front rest : List Char) :
    byteLength (front ++ rest) = byteLength front + byteLength rest := by
  induction front with
  | nil => simp [byteLength]
  | cons c more ih =>
    rw [List.cons_append, byteLength, byteLength, ih]
    omega

theorem byteLength_eq_utf8ByteSize (text : List Char) :
    byteLength text = (String.ofList text).utf8ByteSize := by
  induction text with
  | nil => rfl
  | cons c more ih =>
    rw [byteLength, ih, String.ofList_cons, String.utf8ByteSize_append,
      String.utf8ByteSize_singleton]

structure Inside (text : String) (position : Nat) : Prop where
  within : position ≤ text.utf8ByteSize
  boundary : String.Pos.Raw.IsValid text ⟨position⟩

theorem inside_byteLength (front rest : List Char) :
    Inside (String.ofList (front ++ rest)) (byteLength front) := by
  rw [byteLength_eq_utf8ByteSize, String.ofList_append]
  constructor
  · rw [String.utf8ByteSize_append]
    exact Nat.le_add_right _ _
  · exact String.Pos.Raw.isValid_iff_exists_append.mpr ⟨_, _, rfl, rfl⟩

end Positions

-- What a failure says about the trimmed text. It names the place behind `front`,
-- where the reader gave up. If it quotes what is left over, that is the whole
-- rest of the text, and without it the text would have been read.
structure Reported {α : Type} (take : List Char → Read α) (text : String) (failure : QueryError) :
    Prop where
  parse : failure.kind = .parse
  position : ∃ front, front ++ Read.left (take (trimChars text.toList)) = trimChars text.toList ∧
    failure.position? = some (byteLength front) ∧ Inside (trim text) (byteLength front)
  trailing : ∀ position rest, failure = .trailing position rest →
    failure.detail = "Unexpected trailing content: '" ++ rest ++ "'" ∧ rest ≠ "" ∧
      ∃ front : String, front ++ rest = trim text ∧ front.utf8ByteSize = position ∧
        ∃ value, whole take front.toList = .ok value

theorem reported_of_whole {α : Type} {take : List Char → Read α} {text : String}
    {failure : QueryError} (leaves : ∀ chars, Read.left (take chars) <:+ chars)
    (stands : ∀ front rest value, take (front ++ rest) = .ok (value, rest) →
      whole take front = .ok value)
    (failed : whole take text.toList = .error failure) : Reported take text failure := by
  obtain ⟨front, split⟩ := leaves (trimChars text.toList)
  have inside : Inside (trim text) (byteLength front) := by
    rw [trim, ← split]
    exact inside_byteLength front _
  have bytes : byteLength (trimChars text.toList) -
      byteLength (Read.left (take (trimChars text.toList))) = byteLength front := by
    have sum := congrArg byteLength split
    rw [byteLength_append] at sum
    omega
  cases read : take (trimChars text.toList) with
  | error stop =>
    rw [read] at split bytes
    simp only [whole, read, Except.error.injEq] at failed
    subst failed
    refine ⟨rfl, ⟨front, ?_, congrArg some bytes, inside⟩, ?_⟩
    · rw [read]
      exact split
    · intro position rest same
      cases same
  | ok taken =>
    obtain ⟨value, rest⟩ := taken
    rw [read] at split bytes
    cases rest with
    | nil =>
      rw [whole_eq_ok_iff.mpr read] at failed
      cases failed
    | cons c more =>
      simp only [whole, read, Except.error.injEq] at failed
      subst failed
      refine ⟨rfl, ⟨front, ?_, congrArg some bytes, inside⟩, ?_⟩
      · rw [read]
        exact split
      · intro position quoted same
        cases same
        refine ⟨rfl, by simp, String.ofList front, ?_, ?_, value, ?_⟩
        · rw [← String.ofList_append, trim, ← split]
          rfl
        · rw [← byteLength_eq_utf8ByteSize]
          exact bytes.symm
        · rw [String.toList_ofList]
          rw [← split] at read
          exact stands front (c :: more) value read

section Readers

theorem Edged.trimChars {text : List Char} (edged : Edged text) : trimChars text = text := by
  have read := trimChars_append ⟨[], by simp⟩ ⟨[], by simp⟩ edged
  rwa [List.nil_append, List.append_nil] at read

theorem comparison_stands (front rest : List Char) (comparison : Comparison)
    (read : takeComparison (front ++ rest) = .ok (comparison, rest)) :
    whole takeComparison front = .ok comparison := by
  obtain ⟨phrase, rfl, text⟩ := exists_phrase_of_takeComparison read
  obtain rfl := List.append_cancel_right text
  rw [whole_eq_ok_iff, phrase.edged.trimChars, ← takeComparison_chars_append phrase stops_nil,
    List.append_nil]

theorem metaComparison_stands (front rest : List Char) (comparison : MetaComparison)
    (read : takeMetaComparison (front ++ rest) = .ok (comparison, rest)) :
    whole takeMetaComparison front = .ok comparison := by
  obtain ⟨written, rfl, text⟩ := exists_metaPhrase_of_takeMetaComparison read
  obtain rfl := List.append_cancel_right text
  rw [whole_eq_ok_iff, written.edged.trimChars, takeMetaComparison_chars]

theorem termMatch_stands (front rest : List Char) (found : TermMatch)
    (read : takeTermMatch (front ++ rest) = .ok (found, rest)) :
    whole takeTermMatch front = .ok found := by
  obtain ⟨phrase, rfl, text⟩ := exists_termPhrase_of_takeTermMatch read
  obtain rfl := List.append_cancel_right text
  rw [whole_eq_ok_iff, phrase.edged.trimChars, takeTermMatch_chars]

end Readers

-- Every failure of the three readers is reported at a place inside the trimmed
-- text, and what is quoted as left over can be cut off: the rest reads.
theorem failures_located (text : String) :
    (∀ failure, readComparison text = .error failure → Reported takeComparison text failure) ∧
    (∀ failure, readMetaComparison text = .error failure →
      Reported takeMetaComparison text failure) ∧
    ∀ failure, readTermMatch text = .error failure → Reported takeTermMatch text failure := by
  refine ⟨?_, ?_, ?_⟩
  · intro failure failed
    exact reported_of_whole takeComparison_left comparison_stands failed
  · intro failure failed
    exact reported_of_whole takeMetaComparison_left metaComparison_stands failed
  · intro failure failed
    exact reported_of_whole takeTermMatch_left termMatch_stands failed

theorem leftovers_located :
    Reported takeComparison " größe=bar baz " (.trailing 11 " baz") ∧
    Reported takeMetaComparison "price>=10::" (.trailing 9 "::") ∧
    Reported takeTermMatch "size.name in ]" (.trailing 12 " ]") ∧
    Reported takeTermMatch "size.name" (.expected 9 .blank) :=
  ⟨(failures_located " größe=bar baz ").1 _ rfl, (failures_located "price>=10::").2.1 _ rfl,
    (failures_located "size.name in ]").2.2 _ rfl, (failures_located "size.name").2.2 _ rfl⟩

end ContentQuery.Filter
