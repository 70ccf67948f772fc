import ContentQuery.Proofs.DateTexts
import ContentQuery.Proofs.JsonTexts
import ContentQuery.Proofs.PluckedColumns

namespace ContentQuery

theorem OrderedMap.mapM_lookup {α : Type} {entries : List (String × α)}
    (distinct : (entries.map Prod.fst).Nodup) :
    ((entries.map Prod.fst).mapM fun name => entries.lookup name) = some (entries.map Prod.snd) := by
  suffices general : ∀ part : List (String × α), (∀ entry ∈ part, entry ∈ entries) →
      ((part.map Prod.fst).mapM fun name => entries.lookup name) = some (part.map Prod.snd) from
    general entries fun _ member => member
  intro part within
  induction part with
  | nil => rfl
  | cons entry rest ih =>
    obtain ⟨first, others⟩ := List.forall_mem_cons.mp within
    rw [List.map_cons, List.mapM_cons, lookup_of_mem distinct first, ih others]
    rfl

namespace Post
open Json

-- Identifiers and the count have 64 bits without a sign, the place in the menu
-- has 64 bits with one.
structure Sized (post : Post) : Prop where
  id : (post.id : Int) ≤ greatestUnsigned
  author : (post.author : Int) ≤ greatestUnsigned
  parent : (post.parent : Int) ≤ greatestUnsigned
  commentCount : (post.commentCount : Int) ≤ greatestUnsigned
  menuOrder : leastSigned ≤ post.menuOrder ∧ post.menuOrder ≤ greatestSigned

theorem unsigned?_eq_some_iff {value : Json} {read : Nat} :
    value.unsigned? = some read ↔ value = natJson read ∧ (read : Int) ≤ greatestUnsigned := by
  cases value with
  | num number =>
    cases number with
    | int held =>
      simp only [unsigned?, natJson, Json.int, Option.ite_none_right_eq_some, Option.some.injEq,
        Json.num.injEq, Number.int.injEq]
      omega
    | real held => simp [unsigned?, natJson, Json.int]
  | null | bool _ | str _ | arr _ | obj _ => simp [unsigned?, natJson, Json.int]

theorem dateOf?_dateJson (date : DateTime) : dateOf? (dateJson date) = some date := by
  simp only [dateOf?, dateJson, string?, Option.bind_some, String.toList_ofList,
    DateTime.ofText?_text]

variable {post : Post}

theorem ofValues?_fields (sized : post.Sized) : ofValues? (post.fields.map Prod.snd) = some post := by
  have natural {value : Nat} (fits : (value : Int) ≤ greatestUnsigned) :
      (natJson value).unsigned? = some value := unsigned?_eq_some_iff.mpr ⟨rfl, fits⟩
  have place : (Json.int post.menuOrder).signed? = some post.menuOrder :=
    Store.signed?_eq_some_iff.mpr ⟨rfl, sized.menuOrder⟩
  simp only [fields, List.map_cons, List.map_nil, ofValues?, string?, dateOf?_dateJson,
    natural sized.id, natural sized.author, natural sized.parent, natural sized.commentCount, place,
    Option.bind_eq_bind, Option.bind_some]
  rfl

theorem sized_of_ofValues? {values : List Json} (read : ofValues? values = some post) :
    post.Sized := by
  unfold ofValues? at read
  split at read
  · -- The texts and dates in between have no bound of their own.
    obtain ⟨id, idRead, read⟩ := Option.bind_eq_some_iff.mp read
    obtain ⟨author, authorRead, read⟩ := Option.bind_eq_some_iff.mp read
    iterate 11 obtain ⟨_, -, read⟩ := Option.bind_eq_some_iff.mp read
    obtain ⟨parent, parentRead, read⟩ := Option.bind_eq_some_iff.mp read
    iterate 2 obtain ⟨_, -, read⟩ := Option.bind_eq_some_iff.mp read
    obtain ⟨count, countRead, read⟩ := Option.bind_eq_some_iff.mp read
    obtain ⟨order, orderRead, read⟩ := Option.bind_eq_some_iff.mp read
    cases read
    have fits {value : Json} {read : Nat} (known : value.unsigned? = some read) :=
      (unsigned?_eq_some_iff.mp known).2
    exact ⟨fits idRead, fits authorRead, fits parentRead, fits countRead,
      (Store.signed?_eq_some_iff.mp orderRead).2⟩
  · cases read

theorem sized_of_ofJson? {value : Json} (read : ofJson? value = some post) : post.Sized := by
  cases value with
  | obj fields =>
    obtain ⟨values, -, taken⟩ := Option.bind_eq_some_iff.mp read
    exact sized_of_ofValues? taken
  | arr values => exact sized_of_ofValues? read
  | null | bool _ | num _ | str _ => cases read

theorem nodup_names : Vocabulary.postProperties.Nodup := by decide

theorem ofJson?_toJson (sized : post.Sized) : ofJson? post.toJson = some post := by
  have distinct : (post.fields.map Prod.fst).Nodup := nodup_names
  have looked := OrderedMap.mapM_lookup distinct
  rw [names_fields] at looked
  rw [toJson, ofJson?, looked]
  exact ofValues?_fields sized

theorem readable_toJson (sized : post.Sized) : Readable greatestDepth post.toJson := by
  have natural {value : Nat} (fits : (value : Int) ≤ greatestUnsigned) :
      Readable 126 (natJson value) :=
    .int (Int.le_trans (by decide) (Int.natCast_nonneg value)) fits
  have place : Readable 126 (Json.int post.menuOrder) :=
    .int sized.menuOrder.1 (Int.le_trans sized.menuOrder.2 (by decide))
  refine .obj nodup_names ?_
  simp only [fields, List.forall_mem_cons, natural sized.id, natural sized.author,
    natural sized.parent, natural sized.commentCount, place, Readable.str, dateJson, true_and]
  exact fun _ member => absurd member List.not_mem_nil

-- A post is written with the 18 names of the backend, each once. It is read back
-- from its object, and from the text of its object, just when its numbers have
-- the widths of the backend.
theorem survives_wire (post : Post) :
    (post.toJson = .obj post.fields ∧ post.fields.map Prod.fst = Vocabulary.postProperties ∧
      Vocabulary.postProperties.Nodup ∧ Vocabulary.postProperties.length = 18) ∧
    (ofJson? post.toJson = some post ↔ post.Sized) ∧
    ((Json.ofText? post.toJson.compact).bind ofJson? = some post ↔ post.Sized) := by
  refine ⟨⟨rfl, post.names_fields, nodup_names, rfl⟩, ⟨sized_of_ofJson?, ofJson?_toJson⟩, ?_, ?_⟩
  · intro read
    obtain ⟨value, -, taken⟩ := Option.bind_eq_some_iff.mp read
    exact sized_of_ofJson? taken
  · intro sized
    rw [ofText?_compact (readable_toJson sized)]
    exact ofJson?_toJson sized

end Post
end ContentQuery
