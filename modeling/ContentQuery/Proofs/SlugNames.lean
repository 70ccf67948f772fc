import ContentQuery.Post
import ContentQuery.Proofs.SmallLetters

namespace ContentQuery
namespace Post
open Text

structure Runs (fits : Char → Prop) (runs : List (List Char)) : Prop where
  filled : ∀ run ∈ runs, run ≠ []
  fitting : ∀ run ∈ runs, ∀ c ∈ run, fits c

def Hyphenated (fits : Char → Prop) (name : List Char) : Prop :=
  ∃ runs, Runs fits runs ∧ name = ['-'].intercalate runs

section Splitting
variable {fits : Char → Prop} {runs : List (List Char)} {run text : List Char} {c : Char}

theorem not_isAlphanumeric_hyphen : ¬ isAlphanumeric '-' = true := by decide +kernel

theorem intercalate_cons_of_filled (run : List Char) (filled : runs ≠ []) :
    ['-'].intercalate (run :: runs) = run ++ '-' :: ['-'].intercalate runs := by
  obtain ⟨next, others, rfl⟩ := List.exists_cons_of_ne_nil filled
  rfl

theorem mem_intercalate (member : c ∈ ['-'].intercalate runs) :
    c = '-' ∨ ∃ run ∈ runs, c ∈ run := by
  induction runs with
  | nil => cases member
  | cons run rest ih =>
    by_cases last : rest = []
    · subst last
      rw [List.intercalate_singleton] at member
      exact .inr ⟨run, List.mem_cons_self, member⟩
    · rw [intercalate_cons_of_filled run last, List.mem_append, List.mem_cons] at member
      rcases member with here | hyphen | later
      · exact .inr ⟨run, List.mem_cons_self, here⟩
      · exact .inl hyphen
      · rcases ih later with hyphen | ⟨other, listed, held⟩
        · exact .inl hyphen
        · exact .inr ⟨other, List.mem_cons_of_mem _ listed, held⟩

theorem mem_intercalate_of_mem (listed : run ∈ runs) (member : c ∈ run) :
    c ∈ ['-'].intercalate runs := by
  induction runs with
  | nil => cases listed
  | cons first rest ih =>
    by_cases last : rest = []
    · subst last
      rw [List.intercalate_singleton]
      exact List.mem_singleton.mp listed ▸ member
    · rw [intercalate_cons_of_filled first last, List.mem_append, List.mem_cons]
      rcases List.mem_cons.mp listed with rfl | later
      · exact .inl member
      · exact .inr (.inr (ih later))

theorem alphanumericRuns_append (letters : ∀ c ∈ text, isAlphanumeric c = true)
    (run rest : List Char) :
    alphanumericRuns run (text ++ rest) = alphanumericRuns (run ++ text) rest := by
  induction text generalizing run with
  | nil => rw [List.nil_append, List.append_nil]
  | cons c others ih =>
    rw [List.cons_append, alphanumericRuns, if_pos (letters c List.mem_cons_self),
      ih fun other member => letters other (List.mem_cons_of_mem _ member)]
    rw [List.append_assoc, List.singleton_append]

theorem alphanumericRuns_intercalate (joined : Runs (isAlphanumeric · = true) runs) :
    alphanumericRuns [] (['-'].intercalate runs) = runs := by
  induction runs with
  | nil => rfl
  | cons run rest ih =>
    have letters := joined.fitting run List.mem_cons_self
    have filled : run.isEmpty = false := by
      simpa using joined.filled run List.mem_cons_self
    by_cases last : rest = []
    · subst last
      have alone := alphanumericRuns_append letters [] []
      rw [List.append_nil, List.nil_append, alphanumericRuns, if_neg (by simp [filled])] at alone
      exact (congrArg (alphanumericRuns []) (List.append_nil run)).trans alone
    · rw [intercalate_cons_of_filled run last, alphanumericRuns_append letters, List.nil_append,
        alphanumericRuns, if_neg not_isAlphanumeric_hyphen, if_neg (by simp [filled]),
        ih ⟨fun other member => joined.filled other (List.mem_cons_of_mem _ member),
          fun other member => joined.fitting other (List.mem_cons_of_mem _ member)⟩]

theorem runs_alphanumericRuns (letters : ∀ c ∈ run, isAlphanumeric c = true) (text : List Char) :
    Runs (isAlphanumeric · = true) (alphanumericRuns run text) := by
  induction text generalizing run with
  | nil =>
    rw [alphanumericRuns]
    split
    · exact ⟨nofun, nofun⟩
    · rename_i filled
      refine ⟨List.forall_mem_singleton.mpr ?_, List.forall_mem_singleton.mpr letters⟩
      simpa using filled
  | cons c rest ih =>
    rw [alphanumericRuns]
    split
    · rename_i letter
      apply ih
      exact List.forall_mem_append.mpr ⟨letters, List.forall_mem_singleton.mpr letter⟩
    · have others := @ih [] nofun
      split
      · exact others
      · rename_i filled
        refine ⟨List.forall_mem_cons.mpr ⟨?_, others.filled⟩,
          List.forall_mem_cons.mpr ⟨letters, others.fitting⟩⟩
        simpa using filled

theorem flatten_alphanumericRuns (run text : List Char) :
    (alphanumericRuns run text).flatten = run ++ text.filter isAlphanumeric := by
  induction text generalizing run with
  | nil =>
    rw [alphanumericRuns]
    split
    · rename_i empty
      simpa using empty
    · simp
  | cons c rest ih =>
    rw [alphanumericRuns]
    split
    · rename_i letter
      rw [ih, List.filter_cons_of_pos letter, List.append_assoc, List.singleton_append]
    · rename_i other
      rw [List.filter_cons_of_neg other]
      split
      · rename_i empty
        rw [ih, List.isEmpty_iff.mp empty]
      · rw [List.flatten_cons, ih, List.nil_append]

end Splitting

section Names
variable (title : List Char)

theorem lowered_runs : Runs Lowered ((alphanumericRuns [] title).map lowerChars) := by
  have split := @runs_alphanumericRuns [] nofun title
  constructor
  · intro run member
    obtain ⟨part, listed, rfl⟩ := List.mem_map.mp member
    exact lowerChars_ne_nil (split.fitting part listed) (split.filled part listed)
  · intro run member
    obtain ⟨part, listed, rfl⟩ := List.mem_map.mp member
    exact (lowerFrom_of_letters (split.fitting part listed)).1

theorem dotted_not_mem_slugChars : '\u0130' ∉ slugChars title := by
  intro member
  rcases mem_intercalate member with hyphen | ⟨run, listed, held⟩
  · cases hyphen
  · have fixed := ((lowered_runs title).fitting run listed _ held).fixed
    revert fixed
    decide

theorem dotAbove_mem_slugChars_iff : dotAbove ∈ slugChars title ↔ '\u0130' ∈ title := by
  have split := @runs_alphanumericRuns [] nofun title
  have letters : '\u0130' ∈ (alphanumericRuns [] title).flatten ↔ '\u0130' ∈ title := by
    have letter : isAlphanumeric '\u0130' = true := by decide +kernel
    rw [flatten_alphanumericRuns, List.nil_append, List.mem_filter, and_iff_left letter]
  rw [← letters, List.mem_flatten]
  constructor
  · intro member
    rcases mem_intercalate member with hyphen | ⟨run, listed, held⟩
    · cases hyphen
    · obtain ⟨part, among, rfl⟩ := List.mem_map.mp listed
      exact ⟨part, among, (lowerFrom_of_letters (split.fitting part among)).2.mp held⟩
  · rintro ⟨part, among, held⟩
    apply mem_intercalate_of_mem (List.mem_map_of_mem among)
    exact (lowerFrom_of_letters (split.fitting part among)).2.mpr held

theorem runs_of_plain (plain : '\u0130' ∉ title) :
    Runs (isAlphanumeric · = true) ((alphanumericRuns [] title).map lowerChars) := by
  refine ⟨(lowered_runs title).filled, fun run listed c member => ?_⟩
  refine ((lowered_runs title).fitting run listed c member).letter.resolve_right ?_
  rintro rfl
  exact plain ((dotAbove_mem_slugChars_iff title).mp (mem_intercalate_of_mem listed member))

theorem hyphenated_slugChars_iff :
    Hyphenated (isAlphanumeric · = true) (slugChars title) ↔ '\u0130' ∉ title := by
  constructor
  · rintro ⟨runs, joined, named⟩ dotted
    have dot := (dotAbove_mem_slugChars_iff title).mpr dotted
    rcases mem_intercalate (named ▸ dot) with hyphen | ⟨run, listed, held⟩
    · cases hyphen
    · exact not_isAlphanumeric_dotAbove (joined.fitting run listed _ held)
  · intro plain
    exact ⟨_, runs_of_plain title plain, rfl⟩

theorem slugChars_slugChars (plain : '\u0130' ∉ title) :
    slugChars (slugChars title) = slugChars title := by
  have kept : ∀ run ∈ (alphanumericRuns [] title).map lowerChars, lowerChars run = run :=
    fun run listed => lowerFrom_of_lowered ((lowered_runs title).fitting run listed)
  have parts := alphanumericRuns_intercalate (runs_of_plain title plain)
  rw [slugChars, slugChars, parts, List.map_congr_left kept, List.map_id']

theorem slugChars_slugChars_iff :
    slugChars (slugChars title) = slugChars title ↔ '\u0130' ∉ title := by
  constructor
  · intro same
    rw [← hyphenated_slugChars_iff, ← same, hyphenated_slugChars_iff]
    exact dotted_not_mem_slugChars title
  · exact slugChars_slugChars title

theorem toList_slug (title : String) : (slug title).toList = slugChars title.toList :=
  String.toList_ofList

end Names

-- A name consists of runs that a hyphen separates, none of them empty. They are
-- alphanumeric up to the combining dot that the dotted capital I leaves when it is
-- lowered, after the title was split. A title without that letter has a name that
-- is its own name, and any name of a name is.
theorem names_hyphenated (id : Nat) (type title : String) (date : DateTime) :
    let named title := (published id type title date).name
    Hyphenated (fun c => isAlphanumeric c = true ∨ c = '\u0307') (named title).toList ∧
      (Hyphenated (isAlphanumeric · = true) (named title).toList ↔ '\u0130' ∉ title.toList) ∧
      (named (named title) = named title ↔ '\u0130' ∉ title.toList) ∧
      Hyphenated (isAlphanumeric · = true) (named (named title)).toList ∧
      named (named (named title)) = named (named title) := by
  intro named
  have chars : ∀ title, (named title).toList = slugChars title.toList := toList_slug
  have plain : '\u0130' ∉ (named title).toList := by
    rw [chars]
    exact dotted_not_mem_slugChars title.toList
  have again : ∀ title, named (named title) = named title ↔ '\u0130' ∉ title.toList := by
    intro title
    rw [← String.toList_inj, chars, chars, slugChars_slugChars_iff]
  refine ⟨?_, ?_, again title, ?_, (again (named title)).mpr plain⟩
  · have lowered := lowered_runs title.toList
    exact ⟨_, ⟨lowered.filled, fun run listed c member =>
      (lowered.fitting run listed c member).letter⟩, chars title⟩
  · rw [chars, hyphenated_slugChars_iff]
  · rw [chars, hyphenated_slugChars_iff]
    exact plain

theorem dot_left_in_name :
    let named title := (published 1 "post" title default).name
    (named "\u0130").toList = ['i', '\u0307'] ∧
      ¬ Hyphenated (isAlphanumeric · = true) (named "\u0130").toList ∧
      named (named "\u0130") = "i" := by
  intro named
  refine ⟨by decide +kernel, ?_, by decide +kernel⟩
  intro hyphenated
  have chars : (named "\u0130").toList = slugChars ['\u0130'] := toList_slug _
  rw [chars, hyphenated_slugChars_iff] at hyphenated
  exact hyphenated List.mem_cons_self

end Post
end ContentQuery
