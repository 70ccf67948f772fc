import ContentQuery.Argument
import ContentQuery.Binding
import ContentQuery.Proofs.Insertions

namespace ContentQuery

inductive ClauseKind where
  | plain
  | metas
  | taxonomies

namespace ClauseKind

abbrev Clause : ClauseKind → Type
  | plain => PlainClause
  | metas => MetaNode
  | taxonomies => TaxonomyNode

def binding : (kind : ClauseKind) → List kind.Clause → Binding
  | plain => .plain
  | metas => .metas
  | taxonomies => .taxonomies

-- The clauses of this kind that a name holds; none where it holds something else.
def held : (kind : ClauseKind) → Option Binding → List kind.Clause
  | plain, some (.plain clauses) => clauses
  | metas, some (.metas nodes) => nodes
  | taxonomies, some (.taxonomies nodes) => nodes
  | _, _ => []

theorem held_binding (kind : ClauseKind) (clauses : List kind.Clause) :
    kind.held (some (kind.binding clauses)) = clauses := by
  cases kind <;> rfl

theorem joined_binding (kind : ClauseKind) (before : Option Binding) (added : List kind.Clause) :
    Binding.joined before (kind.binding added) = kind.binding (kind.held before ++ added) := by
  cases before with
  | none => cases kind <;> rfl
  | some binding => cases kind <;> cases binding <;> simp [Binding.joined, ClauseKind.binding, held]

end ClauseKind

namespace Bindings

inductive Change where
  | bind (name : String) (binding : Binding)
  | append (name : String) (binding : Binding)

namespace Change

def name : Change → String
  | .bind name _ => name
  | .append name _ => name

def result : Change → Option Binding → Binding
  | .bind _ binding, _ => binding
  | .append _ binding, held => Binding.joined held binding

end Change

def change (bindings : Bindings) : Change → Bindings
  | .bind name binding => bindings.insert name binding
  | .append name binding => bindings.append name binding

def changeAll (bindings : Bindings) (changes : List Change) : Bindings :=
  changes.foldl change bindings

theorem changeAll_eq (bindings : Bindings) (changes : List Change) :
    bindings.changeAll changes = bindings.alterAll Change.name Change.result changes := by
  have same : change = fun (bindings : Bindings) (changed : Change) =>
      bindings.alter changed.name changed.result := by
    funext bindings changed
    cases changed <;> rfl
  rw [changeAll, same]
  rfl

theorem nodup_keys_changeAll (changes : List Change) : (changeAll .empty changes).keys.Nodup := by
  rw [changeAll_eq]
  exact OrderedMap.nodup_keys_alterAll _ _ OrderedMap.nodup_keys_empty changes

theorem keys_changeAll (changes : List Change) :
    (changeAll .empty changes).keys = (changes.map Change.name).eraseDups := by
  rw [changeAll_eq]
  exact OrderedMap.keys_alterAll_empty _ _ changes

theorem contains_changeAll_iff {changes : List Change} {name : String} :
    (changeAll .empty changes).contains name = true ↔ name ∈ changes.map Change.name := by
  rw [OrderedMap.contains, Option.isSome_iff_ne_none, ← OrderedMap.mem_keys_iff, keys_changeAll,
    List.mem_eraseDups]

theorem get?_changeAll (changes : List Change) (name : String) :
    (changeAll .empty changes).get? name =
      (changes.filter fun changed => changed.name == name).foldl
        (fun held changed => some (changed.result held)) none := by
  rw [changeAll_eq, OrderedMap.get?_alterAll]
  rfl

theorem get?_changeAll_filter (changes : List Change) (name : String) :
    (changeAll .empty changes).get? name =
      (changeAll .empty (changes.filter fun changed => changed.name == name)).get? name := by
  rw [get?_changeAll, get?_changeAll, List.filter_filter]
  simp only [Bool.and_self]

section Appending
variable {changes : List Change} {name : String}

theorem get?_of_appends {γ : Type} {given : List γ} {binding : γ → Binding}
    (calls : (changes.filter fun changed => changed.name == name) =
      given.map fun added => .append name (binding added)) :
    (changeAll .empty changes).get? name =
      given.foldl (fun held added => some (Binding.joined held (binding added))) none := by
  rw [get?_changeAll, calls, List.foldl_map]
  rfl

-- From the second value on there is an array to add to, and it is never a value
-- that was given.
theorem get?_of_values {values : List Json} (filled : values ≠ [])
    (calls : (changes.filter fun changed => changed.name == name) =
      values.map fun added => .append name (.value added)) :
    (changeAll .empty changes).get? name = some (.value (.arr values)) := by
  have grown : ∀ (more held : List Json),
      more.foldl (fun held added => some (Binding.joined held (.value added)))
        (some (.value (.arr held))) = some (.value (.arr (held ++ more))) := by
    intro more
    induction more with
    | nil => intro held; rw [List.append_nil]; rfl
    | cons added rest ih =>
      intro held
      refine (ih (held ++ [added])).trans ?_
      rw [List.append_assoc, List.singleton_append]
  rw [get?_of_appends calls]
  cases values with
  | nil => exact absurd rfl filled
  | cons first rest => exact grown rest [first]

theorem get?_of_clauses (kind : ClauseKind) {lists : List (List kind.Clause)} (filled : lists ≠ [])
    (calls : (changes.filter fun changed => changed.name == name) =
      lists.map fun added => .append name (kind.binding added)) :
    (changeAll .empty changes).get? name = some (kind.binding lists.flatten) := by
  have grown : ∀ (more : List (List kind.Clause)) (held : List kind.Clause),
      more.foldl (fun held added => some (Binding.joined held (kind.binding added)))
        (some (kind.binding held)) = some (kind.binding (held ++ more.flatten)) := by
    intro more
    induction more with
    | nil => intro held; rw [List.flatten_nil, List.append_nil]; rfl
    | cons added rest ih =>
      intro held
      rw [List.foldl_cons, kind.joined_binding, kind.held_binding, ih, List.flatten_cons,
        List.append_assoc]
  rw [get?_of_appends calls]
  cases lists with
  | nil => exact absurd rfl filled
  | cons first rest =>
    have alone : kind.held none = [] := by
      cases kind <;> rfl
    rw [List.foldl_cons, kind.joined_binding, alone, List.nil_append, grown, List.flatten_cons]

end Appending
end Bindings

theorem Arguments.get?_inserted (inserts : List (String × Argument)) (name : String) :
    (OrderedMap.ofList inserts).get? name =
      ((inserts.filter fun entry => entry.1 == name).getLast?).map Prod.snd := by
  have last : ∀ (entries : List (String × Argument)) (held : Option Argument),
      entries.foldl (fun _ entry => some entry.2) held = (entries.getLast?.map Prod.snd).or held := by
    intro entries
    induction entries with
    | nil => intro held; rfl
    | cons entry rest ih =>
      intro held
      rw [List.foldl_cons, ih, List.getLast?_cons]
      cases rest.getLast? <;> rfl
  refine (OrderedMap.get?_alterAll Prod.fst (fun entry _ => entry.2) .empty inserts name).trans ?_
  exact (last _ none).trans (Option.or_none)

-- Bindings and arguments list their names in the order of the first writes. What
-- a name holds depends on the writes to it alone: of values added to a new name
-- the array of them all, of clauses all in one list, of arguments the last one.
theorem names_in_order_of_first_write (changes : List Bindings.Change)
    (inserts : List (String × Argument)) :
    let bindings := Bindings.changeAll .empty changes
    let arguments : Arguments := .ofList inserts
    (bindings.keys.Nodup ∧ bindings.keys = (changes.map Bindings.Change.name).eraseDups ∧
      ∀ name,
        ((bindings.get? name).isSome = true ↔ name ∈ changes.map Bindings.Change.name) ∧
        (bindings.contains name = true ↔ name ∈ changes.map Bindings.Change.name) ∧
        let calls := changes.filter fun changed => changed.name == name
        bindings.get? name = (Bindings.changeAll .empty calls).get? name ∧
        (∀ values : List Json, values ≠ [] →
          calls = (values.map fun added => .append name (.value added)) →
          bindings.get? name = some (.value (.arr values))) ∧
        ∀ (kind : ClauseKind) (lists : List (List kind.Clause)), lists ≠ [] →
          calls = (lists.map fun added => .append name (kind.binding added)) →
          bindings.get? name = some (kind.binding lists.flatten)) ∧
    arguments.keys.Nodup ∧ arguments.keys = (inserts.map Prod.fst).eraseDups ∧
      ∀ name, arguments.get? name =
        ((inserts.filter fun entry => entry.1 == name).getLast?).map Prod.snd := by
  intro bindings arguments
  refine ⟨⟨?_, ?_, ?_⟩, ?_, ?_, ?_⟩
  · exact Bindings.nodup_keys_changeAll changes
  · exact Bindings.keys_changeAll changes
  · intro name
    refine ⟨Bindings.contains_changeAll_iff, Bindings.contains_changeAll_iff, ?_, ?_, ?_⟩
    · exact Bindings.get?_changeAll_filter changes name
    · exact fun values filled calls => Bindings.get?_of_values filled calls
    · exact fun kind lists filled calls => Bindings.get?_of_clauses kind filled calls
  · exact OrderedMap.nodup_keys_insertMany OrderedMap.nodup_keys_empty inserts
  · exact OrderedMap.keys_alterAll_empty Prod.fst (fun entry _ => entry.2) inserts
  · exact Arguments.get?_inserted inserts

def tagged : List Bindings.Change :=
  [.bind "limit" (.value (Json.int 5)), .append "tags" (.value (.str "new")),
    .append "wheres" (.plain [⟨"price", ">=", Json.int 3⟩]),
    .append "tags" (.value (.arr [.str "red", .str "blue"])), .bind "limit" (.value .null),
    .append "wheres" (.plain [⟨"size", "=", .str "M"⟩, ⟨"size", "=", .str "L"⟩])]

theorem tags_and_sizes_gathered :
    (Bindings.changeAll .empty tagged).keys = ["limit", "tags", "wheres"] ∧
      (Bindings.changeAll .empty tagged).get? "tags" =
        some (.value (.arr [.str "new", .arr [.str "red", .str "blue"]])) ∧
      (Bindings.changeAll .empty tagged).get? "wheres" =
        some (.plain [⟨"price", ">=", Json.int 3⟩, ⟨"size", "=", .str "M"⟩, ⟨"size", "=", .str "L"⟩]) ∧
      (OrderedMap.ofList [("p", Argument.value .null), ("s", .value .null),
        ("p", .value (Json.int 7))]).get? "p" = some (.value (Json.int 7)) := by
  obtain ⟨⟨-, order, named⟩, -, -, last⟩ := names_in_order_of_first_write tagged
    [("p", .value .null), ("s", .value .null), ("p", .value (Json.int 7))]
  refine ⟨order.trans (by decide), ?_, ?_, last "p"⟩
  · exact (named "tags").2.2.2.1 [.str "new", .arr [.str "red", .str "blue"]] (by decide) rfl
  · exact (named "wheres").2.2.2.2 .plain [[⟨"price", ">=", Json.int 3⟩],
      [⟨"size", "=", .str "M"⟩, ⟨"size", "=", .str "L"⟩]] (List.cons_ne_nil _ _) rfl

end ContentQuery
