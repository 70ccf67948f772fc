import ContentQuery.Coercion
import ContentQuery.Proofs.FilterOperands

namespace ContentQuery

theorem Filter.stops_of_append {p : Char → Bool} {front rest : List Char}
    (stops : Stops p (front ++ rest)) : Stops p front := by
  cases front with
  | nil => trivial
  | cons _ _ => exact stops

namespace Text

structure Bare (text : String) : Prop where
  front : Filter.Stops isBlank text.toList
  back : Filter.Stops isBlank text.toList.reverse

theorem bare_trim (text : String) : Bare (trim text) := by
  have turned : (trim text).toList.reverse =
      (text.toList.dropWhile isBlank).reverse.dropWhile isBlank := by
    rw [trim, String.toList_ofList, trimChars, List.reverse_reverse]
  refine ⟨?_, ?_⟩
  · -- What is cut at the back stands behind the front, so the front is the one
    -- that the first cut has left.
    have stops : Filter.Stops isBlank (text.toList.dropWhile isBlank) := Filter.stops_dropWhile _
    rw [← List.reverse_reverse (text.toList.dropWhile isBlank), ← Filter.Run.leading_append
      (text.toList.dropWhile isBlank).reverse, ← turned, List.reverse_append,
      List.reverse_reverse] at stops
    generalize (trim text).toList = kept at stops ⊢
    exact Filter.stops_of_append stops
  · rw [turned]
    exact Filter.stops_dropWhile _

theorem trim_eq_self_iff {text : String} : trim text = text ↔ Bare text := by
  constructor
  · intro kept
    exact kept ▸ bare_trim text
  · intro bare
    have kept : ∀ {chars : List Char}, Filter.Stops isBlank chars →
        chars.dropWhile isBlank = chars :=
      fun stops => Filter.Run.dropWhile_append ⟨[], by simp⟩ stops
    rw [trim, trimChars, kept bare.front, kept bare.back, List.reverse_reverse,
      String.ofList_toList]

end Text

namespace Json

def items : Json → List Json
  | .arr items => items
  | _ => []

def at? (value : Json) : List Nat → Option Json
  | [] => some value
  | index :: path => value.items[index]?.bind fun item => item.at? path

mutual

-- Changes the texts of nested arrays, each by the depth where it stands. Their
-- shape, their order and all other values stay.
def editTexts (change : Nat → String → String) (depth : Nat) : Json → Json
  | .str text => .str (change depth text)
  | .arr items => .arr (editItems change (depth + 1) items)
  | value => value

def editItems (change : Nat → String → String) (depth : Nat) : List Json → List Json
  | [] => []
  | item :: rest => item.editTexts change depth :: editItems change depth rest

end

def BareFrom (depth : Nat) (value : Json) : Prop :=
  ∀ path text, depth ≤ path.length → value.at? path = some (.str text) → Text.Bare text

section Changing
variable (change other : Nat → String → String)

theorem editItems_eq_map (depth : Nat) (items : List Json) :
    editItems change depth items = items.map (editTexts change depth) := by
  induction items with
  | nil => rfl
  | cons item rest ih => rw [editItems, ih, List.map_cons]

theorem items_editTexts (depth : Nat) (value : Json) :
    (value.editTexts change depth).items = value.items.map (editTexts change (depth + 1)) := by
  cases value with
  | arr items => exact editItems_eq_map change (depth + 1) items
  | null | bool _ | num _ | str _ | obj _ => rfl

theorem at?_editTexts (depth : Nat) (value : Json) (path : List Nat) :
    (value.editTexts change depth).at? path =
      (value.at? path).map (editTexts change (depth + path.length)) := by
  induction path generalizing depth value with
  | nil => rfl
  | cons index rest ih =>
    have deeper : depth + (index :: rest).length = depth + 1 + rest.length := by
      rw [List.length_cons]
      omega
    rw [at?, at?, items_editTexts, List.getElem?_map, deeper]
    cases value.items[index]? with
    | none => rfl
    | some item => exact ih (depth + 1) item

theorem editTexts_eq_str_iff {depth : Nat} {value : Json} {text : String} :
    value.editTexts change depth = .str text ↔
      ∃ raw, value = .str raw ∧ change depth raw = text := by
  cases value <;> simp [editTexts]

theorem text_at?_editTexts {depth : Nat} {value : Json} {path : List Nat} {text : String} :
    (value.editTexts change depth).at? path = some (.str text) ↔
      ∃ raw, value.at? path = some (.str raw) ∧ change (depth + path.length) raw = text := by
  rw [at?_editTexts, Option.map_eq_some_iff]
  constructor
  · rintro ⟨held, found, changed⟩
    obtain ⟨raw, rfl, same⟩ := (editTexts_eq_str_iff change).mp changed
    exact ⟨raw, found, same⟩
  · rintro ⟨raw, found, same⟩
    exact ⟨.str raw, found, (editTexts_eq_str_iff change).mpr ⟨raw, rfl, same⟩⟩

mutual

theorem editTexts_kept : ∀ (depth : Nat) (value : Json),
    value.editTexts (fun _ text => text) depth = value
  | _, .null | _, .bool _ | _, .num _ | _, .str _ | _, .obj _ => rfl
  | depth, .arr items => by rw [editTexts, editItems_kept (depth + 1) items]

theorem editItems_kept : ∀ (depth : Nat) (items : List Json),
    editItems (fun _ text => text) depth items = items
  | _, [] => rfl
  | depth, item :: rest => by rw [editItems, editTexts_kept depth item, editItems_kept depth rest]

end

mutual

theorem editTexts_congr : ∀ (depth : Nat) (value : Json),
    (∀ (path : List Nat) (text : String), value.at? path = some (.str text) →
      change (depth + path.length) text = other (depth + path.length) text) →
    value.editTexts change depth = value.editTexts other depth
  | _, .null, _ | _, .bool _, _ | _, .num _, _ | _, .obj _, _ => rfl
  | _, .str text, same => congrArg Json.str (same [] text rfl)
  | depth, .arr items, same => by
    rw [editTexts, editTexts, editItems_congr (depth + 1) items]
    intro index path text found
    have deeper : depth + (index :: path).length = depth + 1 + path.length := by
      rw [List.length_cons]
      omega
    exact deeper ▸ same (index :: path) text found

theorem editItems_congr : ∀ (depth : Nat) (items : List Json),
    (∀ (index : Nat) (path : List Nat) (text : String),
      (items[index]?.bind fun item => item.at? path) = some (.str text) →
      change (depth + path.length) text = other (depth + path.length) text) →
    editItems change depth items = editItems other depth items
  | _, [], _ => rfl
  | depth, item :: rest, same => by
    rw [editItems, editItems, editTexts_congr depth item (same 0),
      editItems_congr depth rest fun index => same (index + 1)]

end

-- Two changes come to the same just where they agree on every text that there is.
theorem editTexts_eq_iff {depth : Nat} {value : Json} :
    value.editTexts change depth = value.editTexts other depth ↔
      ∀ path text, value.at? path = some (.str text) →
        change (depth + path.length) text = other (depth + path.length) text := by
  constructor
  · intro same path text found
    have changed : (value.editTexts change depth).at? path =
        some (.str (change (depth + path.length) text)) :=
      (text_at?_editTexts change).mpr ⟨text, found, rfl⟩
    rw [same] at changed
    obtain ⟨raw, held, equal⟩ := (text_at?_editTexts other).mp changed
    cases held.symm.trans found
    exact equal.symm
  · exact editTexts_congr change other depth value

end Changing
end Json

namespace Coercion

def listed : Json → Json
  | .arr items => .arr items
  | value => .arr [value]

def trimOutermost (depth : Nat) (text : String) : String :=
  if depth = 1 then Text.trim text else text

theorem trimOutermost_of_deep {depth : Nat} (deep : 2 ≤ depth) (text : String) :
    trimOutermost depth text = text :=
  if_neg (by omega)

theorem editTexts_trimOutermost (item : Json) : item.editTexts trimOutermost 1 = trimItem item := by
  cases item with
  | arr inner =>
    refine (Json.editTexts_congr trimOutermost (fun _ text => text) 1 (.arr inner) ?_).trans ?_
    · intro path text found
      cases path with
      | nil => cases found
      | cons index rest =>
        refine trimOutermost_of_deep ?_ text
        rw [List.length_cons]
        omega
    · exact Json.editTexts_kept 1 (.arr inner)
  | null | bool _ | num _ | str _ | obj _ => rfl

theorem apply_array (value : Json) :
    array.apply value = (listed value).editTexts trimOutermost 0 := by
  have trimmed : ∀ items : List Json,
      Json.editItems trimOutermost 1 items = items.map trimItem := by
    intro items
    rw [Json.editItems_eq_map]
    exact List.map_congr_left fun item _ => editTexts_trimOutermost item
  cases value with
  | arr items => exact congrArg Json.arr (trimmed items).symm
  | null | bool _ | num _ | str _ | obj _ => exact congrArg Json.arr (trimmed [_]).symm

theorem depth_of_text {value : Json} {path : List Nat} {text : String}
    (found : (listed value).at? path = some (.str text)) :
    0 + path.length = 1 ∨ 2 ≤ path.length := by
  cases path with
  | nil => cases value <;> cases found
  | cons index rest =>
    rw [List.length_cons]
    omega

theorem bareFrom_apply_array_iff (value : Json) :
    (array.apply value).BareFrom 0 ↔ (listed value).BareFrom 2 := by
  rw [apply_array]
  constructor
  · intro bare path text deep found
    refine bare path text (Nat.zero_le _) ((Json.text_at?_editTexts _).mpr ⟨text, found, ?_⟩)
    exact trimOutermost_of_deep (by omega) text
  · intro bare path text _ found
    obtain ⟨raw, held, rfl⟩ := (Json.text_at?_editTexts _).mp found
    rcases depth_of_text held with single | deep
    · rw [single]
      exact Text.bare_trim raw
    · rw [trimOutermost_of_deep (by omega)]
      exact bare path raw deep held

theorem apply_array_eq_trimmed_iff (value : Json) :
    array.apply value = (listed value).editTexts (fun _ => Text.trim) 0 ↔
      (listed value).BareFrom 2 := by
  rw [apply_array, Json.editTexts_eq_iff]
  constructor
  · intro same path text deep found
    have kept := same path text found
    rw [trimOutermost_of_deep (by omega)] at kept
    exact Text.trim_eq_self_iff.mp kept.symm
  · intro bare path text found
    rcases depth_of_text found with single | deep
    · rw [single]
      rfl
    · rw [trimOutermost_of_deep (by omega)]
      exact (Text.trim_eq_self_iff.mpr (bare path text deep found)).symm

-- The array of a value keeps its shape, its order and all that is no text, at
-- every depth. Only the texts that stand in it themselves are trimmed, so it is
-- the array with all its texts trimmed, and free of blanks around them, just when
-- the arrays inside it were so already.
theorem arrays_coerced (value : Json) :
    array.apply value = (listed value).editTexts trimOutermost 0 ∧
      ((array.apply value).BareFrom 0 ↔ (listed value).BareFrom 2) ∧
      (array.apply value = (listed value).editTexts (fun _ => Text.trim) 0 ↔
        (listed value).BareFrom 2) :=
  ⟨apply_array value, bareFrom_apply_array_iff value, apply_array_eq_trimmed_iff value⟩

theorem inner_text_untrimmed :
    array.apply (.arr [.arr [.str " a "]]) = .arr [.arr [.str " a "]] ∧
      ¬ (array.apply (.arr [.arr [.str " a "]])).BareFrom 0 := by
  refine ⟨rfl, ?_⟩
  intro bare
  have front := (bare [0, 0] " a " (Nat.zero_le _) rfl).front
  revert front
  decide

end Coercion
end ContentQuery
