import ContentQuery.Argument
import ContentQuery.Proofs.Insertions

namespace ContentQuery

theorem position_injective {first second : Nat} (same : toString first = toString second) :
    first = second := by
  have digits : Nat.toDigits 10 first = Nat.toDigits 10 second := by
    rwa [Nat.toString_eq_ofList_toDigits, Nat.toString_eq_ofList_toDigits,
      String.ofList_inj] at same
  rw [← @Nat.ofDigitChars_ten_toDigits first, digits, Nat.ofDigitChars_ten_toDigits]

theorem position_ne {word : String} (wordy : word.toList.all Char.isDigit = false)
    (position : Nat) : toString position ≠ word := by
  intro same
  have digits : (toString position).toList.all Char.isDigit = true := by
    rw [Nat.toString_eq_ofList_toDigits, String.toList_ofList, List.all_eq_true]
    exact fun c member => Nat.isDigit_of_mem_toDigits (by decide) (by decide) member
  rw [same, wordy] at digits
  cases digits

theorem Relation.token_injective {first second : Relation} (same : first.token = second.token) :
    first = second := by
  cases first <;> cases second <;> first | rfl | exact absurd same (by decide)

namespace ClauseEntry

def relationMember (relation : Option Relation) : List (String × Json) :=
  relation.toList.map fun relation => ("relation", .str relation.token)

theorem relationMember_injective {relation related : Option Relation}
    (same : relationMember relation = relationMember related) : relation = related := by
  cases relation with
  | none => cases related with
    | none => rfl
    | some _ => cases same
  | some first => cases related with
    | none => cases same
    | some second =>
      have tokens : first.token = second.token := by simpa [relationMember] using same
      rw [Relation.token_injective tokens]

theorem relationMember_ne (relation : Option Relation) (position : Nat) (value : Json)
    (rest : List (String × Json)) :
    relationMember relation ≠ (toString position, value) :: rest := by
  intro same
  cases relation with
  | none => cases same
  | some _ =>
    have word : "relation" = toString position := congrArg Prod.fst (List.cons.inj same).1
    exact position_ne (by decide) position word.symm

theorem members_eq (position : Nat) (entries : List ClauseEntry) (relation : Option Relation) :
    members position entries relation =
      (entries.zipIdx position).map (fun entry => (toString entry.2, entry.1.toJson)) ++
        relationMember relation := by
  induction entries generalizing position with
  | nil => rfl
  | cons entry rest ih =>
    rw [members, ih, List.zipIdx_cons]
    rfl

theorem length_members (position : Nat) (entries : List ClauseEntry) (relation : Option Relation) :
    (members position entries relation).length = entries.length + relation.toList.length := by
  rw [members_eq, List.length_append, List.length_map, List.length_zipIdx, relationMember,
    List.length_map]

theorem keys_members (position : Nat) (entries : List ClauseEntry) (relation : Option Relation) :
    (members position entries relation).map Prod.fst =
      (List.range' position entries.length).map toString ++
        relation.toList.map fun _ => "relation" := by
  rw [members_eq, List.map_append, List.map_map, relationMember, List.map_map,
    ← List.zipIdx_map_snd position entries, List.map_map]
  rfl

theorem mem_keys_members {key : String} {position : Nat} {entries : List ClauseEntry}
    {relation : Option Relation} :
    key ∈ (members position entries relation).map Prod.fst ↔
      (∃ index ∈ List.range' position entries.length, toString index = key) ∨
        relation ≠ none ∧ "relation" = key := by
  rw [keys_members, List.mem_append, List.mem_map]
  cases relation <;> simp [eq_comm]

theorem not_mem_keys_members {word : String} (wordy : word.toList.all Char.isDigit = false)
    (other : word ≠ "relation") (position : Nat) (entries : List ClauseEntry)
    (relation : Option Relation) : word ∉ (members position entries relation).map Prod.fst := by
  rw [mem_keys_members]
  rintro (⟨index, -, same⟩ | ⟨-, same⟩)
  · exact position_ne wordy index same
  · exact other same.symm

theorem nodup_keys_members (position : Nat) (entries : List ClauseEntry)
    (relation : Option Relation) : ((members position entries relation).map Prod.fst).Nodup := by
  rw [keys_members, List.nodup_append]
  refine ⟨?_, ?_, ?_⟩
  · exact List.Pairwise.map _ (fun _ _ apart same => apart (position_injective same))
      (List.nodup_range' ..)
  · cases relation <;> simp
  · intro key positional word last same
    obtain ⟨position, -, rfl⟩ := List.mem_map.mp positional
    obtain ⟨_, -, rfl⟩ := List.mem_map.mp last
    exact position_ne (by decide) position same

theorem getElem?_members {entries : List ClauseEntry} {index : Nat}
    (inside : index < entries.length) (position : Nat) (relation : Option Relation) :
    (members position entries relation)[index]? =
      some (toString (position + index), entries[index].toJson) := by
  rw [members_eq, List.getElem?_append_left (by simpa using inside), List.getElem?_map,
    List.getElem?_zipIdx, List.getElem?_eq_getElem inside]
  rfl

theorem drop_members (position : Nat) (entries : List ClauseEntry) (relation : Option Relation) :
    (members position entries relation).drop entries.length = relationMember relation := by
  rw [members_eq]
  exact List.drop_left' (by simp)

end ClauseEntry

-- The kind of a clause shows in its first key: only a comparison has a key and
-- only a taxonomy clause names a taxonomy.
theorem ClauseEntry.ne_members {word : String} {value : Json} {rest : List (String × Json)}
    (wordy : word.toList.all Char.isDigit = false) (other : word ≠ "relation")
    (entries : List ClauseEntry) (relation : Option Relation) :
    (word, value) :: rest ≠ ClauseEntry.members 0 entries relation := by
  intro same
  apply ClauseEntry.not_mem_keys_members wordy other 0 entries relation
  rw [← same]
  exact List.mem_cons_self

mutual

theorem ClauseEntry.eq_of_toJson : ∀ {entry other : ClauseEntry},
    entry.toJson = other.toJson → entry = other
  | .comparison .., .comparison .., same | .taxonomy .., .taxonomy .., same => by
    simpa [ClauseEntry.toJson] using same
  | .group entries relation, .group others related, same => by
    obtain ⟨rfl, rfl⟩ := ClauseEntry.eq_of_members (Json.obj.inj same)
    rfl
  | .comparison .., .taxonomy .., same | .taxonomy .., .comparison .., same => by
    simp [ClauseEntry.toJson] at same
  | .comparison .., .group entries relation, same | .taxonomy .., .group entries relation, same =>
    absurd (Json.obj.inj same) (ClauseEntry.ne_members (by decide) (by decide) entries relation)
  | .group entries relation, .comparison .., same | .group entries relation, .taxonomy .., same =>
    absurd (Json.obj.inj same).symm
      (ClauseEntry.ne_members (by decide) (by decide) entries relation)

theorem ClauseEntry.eq_of_members {position : Nat} {relation related : Option Relation} :
    ∀ {entries others : List ClauseEntry},
      ClauseEntry.members position entries relation = ClauseEntry.members position others related →
      entries = others ∧ relation = related
  | [], [], same => ⟨rfl, ClauseEntry.relationMember_injective same⟩
  | [], _ :: _, same => absurd same (ClauseEntry.relationMember_ne _ _ _ _)
  | _ :: _, [], same => absurd same.symm (ClauseEntry.relationMember_ne _ _ _ _)
  | _ :: _, _ :: _, same => by
    simp only [ClauseEntry.members, List.cons.injEq, Prod.mk.injEq, true_and] at same
    obtain ⟨rfl, rfl⟩ := ClauseEntry.eq_of_members same.2
    exact ⟨congrArg (· :: _) (ClauseEntry.eq_of_toJson same.1), rfl⟩

end

def Number.same : Number → Number → Bool
  | .int value, .int other => value == other
  | .real value, .real other => value == other || (value.mantissa == 0 && other.mantissa == 0)
  | .int _, .real _ | .real _, .int _ => false

-- What is the same when the order of an object's fields does not count.
mutual

def Json.same : Json → Json → Bool
  | .null, .null => true
  | .bool value, .bool other => value == other
  | .num value, .num other => value.same other
  | .str text, .str other => text == other
  | .arr items, .arr others => Json.sameItems items others
  | .obj fields, .obj others => fields.length == others.length && Json.within fields others
  | _, _ => false

def Json.sameItems : List Json → List Json → Bool
  | [], [] => true
  | item :: items, other :: others => item.same other && Json.sameItems items others
  | _, _ => false

def Json.within : List (String × Json) → List (String × Json) → Bool
  | [], _ => true
  | (name, value) :: rest, others =>
    (match others.lookup name with
      | some other => value.same other
      | none => false) && Json.within rest others

end

mutual

def ClauseEntry.same : ClauseEntry → ClauseEntry → Bool
  | .comparison key value compare comparator, .comparison key' value' compare' comparator' =>
    key == key' && value.same value' && compare == compare' && comparator == comparator'
  | .taxonomy name field terms includeChildren operator,
      .taxonomy name' field' terms' includeChildren' operator' =>
    name == name' && field == field' && terms.same terms' && includeChildren == includeChildren' &&
      operator == operator'
  | .group entries relation, .group entries' relation' =>
    ClauseEntry.sameEntries entries entries' && relation == relation'
  | _, _ => false

def ClauseEntry.sameEntries : List ClauseEntry → List ClauseEntry → Bool
  | [], [] => true
  | entry :: rest, other :: others => entry.same other && ClauseEntry.sameEntries rest others
  | _, _ => false

end

def ClauseList.same (list other : ClauseList) : Bool :=
  ClauseEntry.sameEntries list.entries other.entries && list.relation == other.relation

theorem Json.same_of_missing {name : String} {value : Json} {rest others : List (String × Json)}
    (missing : name ∉ others.map Prod.fst) :
    (Json.obj ((name, value) :: rest)).same (.obj others) = false := by
  rw [Json.same, Json.within, OrderedMap.lookup_eq_none_iff_not_mem.mpr missing, Bool.false_and,
    Bool.and_false]

namespace ClauseEntry

theorem members_same (words : List String) {fields : List (String × Json)}
    (keys : fields.map Prod.fst = words) (several : 1 < words.length)
    (wordy : ∀ word ∈ words, word.toList.all Char.isDigit = false)
    (entries : List ClauseEntry) (relation : Option Relation) :
    (Json.obj (members 0 entries relation)).same (.obj fields) = false := by
  subst keys
  rw [List.length_map] at several
  cases entries with
  | nil =>
    have few : (members 0 [] relation).length ≠ fields.length := by
      rw [length_members]
      cases relation <;> simp <;> omega
    rw [Json.same, beq_eq_false_iff_ne.mpr few, Bool.false_and]
  | cons entry rest =>
    exact Json.same_of_missing fun held => position_ne (wordy _ held) 0 rfl

theorem length_of_sameEntries : ∀ {entries others : List ClauseEntry},
    sameEntries entries others = true → entries.length = others.length
  | [], [], _ => rfl
  | [], _ :: _, same | _ :: _, [], same => by simp [sameEntries] at same
  | _ :: _, _ :: _, same => by
    rw [sameEntries, Bool.and_eq_true] at same
    exact congrArg (· + 1) (length_of_sameEntries same.2)

theorem lookup_position (position : Nat) (entries : List ClauseEntry) (relation : Option Relation) :
    (members 0 entries relation).lookup (toString position) = entries[position]?.map toJson := by
  rcases Nat.lt_or_ge position entries.length with inside | outside
  · rw [List.getElem?_eq_getElem inside]
    apply OrderedMap.lookup_of_mem (nodup_keys_members 0 entries relation)
    have held := getElem?_members inside 0 relation
    rw [Nat.zero_add] at held
    exact List.mem_of_getElem? held
  · rw [List.getElem?_eq_none outside, Option.map_none, OrderedMap.lookup_eq_none_iff_not_mem,
      mem_keys_members]
    rintro (⟨index, within, same⟩ | ⟨-, same⟩)
    · rw [position_injective same, List.mem_range'_1] at within
      omega
    · exact position_ne (by decide) position same.symm

theorem lookup_relation (entries : List ClauseEntry) (relation : Option Relation) :
    (members 0 entries relation).lookup "relation" =
      relation.map fun relation => .str relation.token := by
  have distinct := nodup_keys_members 0 entries relation
  cases relation with
  | none =>
    rw [Option.map_none, OrderedMap.lookup_eq_none_iff_not_mem, mem_keys_members]
    rintro (⟨index, -, same⟩ | ⟨related, -⟩)
    · exact position_ne (by decide) index same
    · exact related rfl
  | some held =>
    apply OrderedMap.lookup_of_mem distinct
    rw [members_eq]
    exact List.mem_append_right _ List.mem_cons_self

end ClauseEntry

mutual

theorem ClauseEntry.same_toJson : ∀ (entry other : ClauseEntry),
    entry.toJson.same other.toJson = entry.same other
  | .comparison .., .comparison .. | .taxonomy .., .taxonomy .. => by
    simp [ClauseEntry.toJson, Json.same, Json.within, ClauseEntry.same, List.lookup_cons,
      Bool.and_assoc]
  | .group entries relation, .group others related => by
    rw [ClauseEntry.toJson, ClauseEntry.toJson, Json.same, ClauseEntry.same,
      ClauseEntry.length_members, ClauseEntry.length_members]
    by_cases size :
        entries.length + relation.toList.length = others.length + related.toList.length
    · rw [ClauseEntry.within_members entries 0 (Nat.zero_le _) size, size, beq_self_eq_true]
      rfl
    · rw [beq_eq_false_iff_ne.mpr size, Bool.false_and, eq_comm, Bool.and_eq_false_imp]
      intro alike
      rw [ClauseEntry.length_of_sameEntries alike] at size
      rw [beq_eq_false_iff_ne]
      rintro rfl
      exact size rfl
  | .comparison .., .taxonomy .. | .taxonomy .., .comparison .. => by
    simp [ClauseEntry.toJson, Json.same, ClauseEntry.same]
  | .comparison .., .group entries relation | .taxonomy .., .group entries relation =>
    Json.same_of_missing
      (ClauseEntry.not_mem_keys_members (by decide) (by decide) 0 entries relation)
  | .group entries relation, .comparison .. =>
    ClauseEntry.members_same ["key", "value", "compare", "type"] rfl (by decide) (by decide)
      entries relation
  | .group entries relation, .taxonomy .. =>
    ClauseEntry.members_same ["taxonomy", "field", "terms", "include_children", "operator"] rfl
      (by decide) (by decide) entries relation

theorem ClauseEntry.within_members {relation related : Option Relation}
    {others : List ClauseEntry} :
    ∀ (entries : List ClauseEntry) (position : Nat), position ≤ others.length →
      entries.length + relation.toList.length =
        (others.drop position).length + related.toList.length →
      Json.within (ClauseEntry.members position entries relation)
          (ClauseEntry.members 0 others related) =
        (ClauseEntry.sameEntries entries (others.drop position) && relation == related)
  | [], position, inside, alike => by
    cases relation with
    | none =>
      have ended : (others.drop position).length = 0 ∧ related.toList.length = 0 := by
        simp only [List.length_nil, Option.toList] at alike ⊢
        omega
      rw [List.eq_nil_of_length_eq_zero ended.1,
        Option.toList_eq_nil_iff.mp (List.eq_nil_of_length_eq_zero ended.2)]
      rfl
    | some first =>
      have held := ClauseEntry.lookup_relation others related
      rw [ClauseEntry.members]
      cases related with
      | none =>
        rw [Option.map_none] at held
        simp [Json.within, held]
      | some second =>
        have ended : others.drop position = [] := by
          apply List.eq_nil_of_length_eq_zero
          simpa using alike
        rw [Option.map_some] at held
        simp only [Option.toList, List.map_cons, List.map_nil, Json.within, held, ended]
        cases first <;> cases second <;> rfl
  | entry :: rest, position, inside, alike => by
    have held := ClauseEntry.lookup_position position others related
    rcases Nat.lt_or_ge position others.length with there | ended
    · rw [List.getElem?_eq_getElem there] at held
      have shorter : rest.length + relation.toList.length =
          (others.drop (position + 1)).length + related.toList.length := by
        rw [List.drop_eq_getElem_cons there, List.length_cons, List.length_cons] at alike
        omega
      have further := ClauseEntry.within_members rest (position + 1) there shorter
      rw [List.drop_eq_getElem_cons there, ClauseEntry.members, Json.within, held, further,
        ClauseEntry.sameEntries, Bool.and_assoc]
      exact congrArg (· && _) (ClauseEntry.same_toJson entry others[position])
    · rw [List.getElem?_eq_none ended] at held
      rw [List.drop_eq_nil_of_le ended, ClauseEntry.members, Json.within, held]
      rfl

end

namespace ClauseList

theorem toJson_group (entries : List ClauseEntry) (relation : Option Relation) :
    (ClauseEntry.group entries relation).toJson = toJson ⟨entries, relation⟩ := by
  rw [ClauseEntry.toJson, toJson]

theorem eq_of_toJson {list other : ClauseList} (same : list.toJson = other.toJson) :
    list = other := by
  obtain ⟨entries, relation⟩ := list
  obtain ⟨others, related⟩ := other
  rw [← toJson_group, ← toJson_group] at same
  cases ClauseEntry.eq_of_toJson same
  rfl

theorem same_toJson (list other : ClauseList) :
    list.toJson.same other.toJson = list.same other := by
  obtain ⟨entries, relation⟩ := list
  obtain ⟨others, related⟩ := other
  rw [← toJson_group, ← toJson_group, ClauseEntry.same_toJson, ClauseEntry.same, same]

-- The object has one field for each clause, under its position, and one for the
-- relation; whoever reads it, in the order of its fields or in any other, gets
-- back the list it was made from.
theorem toJson_recovers_clauses (list : ClauseList) :
    (∃ fields, list.toJson = .obj fields ∧ fields.length = list.size ∧
      (fields.map Prod.fst).Nodup ∧
      (∀ (index : Nat) (inside : index < list.entries.length),
        fields[index]? = some (toString index, list.entries[index].toJson)) ∧
      fields.drop list.entries.length =
        list.relation.toList.map fun relation => ("relation", .str relation.token)) ∧
    ∀ other : ClauseList,
      (list.toJson = other.toJson → list = other) ∧
        list.toJson.same other.toJson = list.same other := by
  obtain ⟨entries, relation⟩ := list
  refine ⟨⟨ClauseEntry.members 0 entries relation, rfl,
    ClauseEntry.length_members 0 entries relation,
    ClauseEntry.nodup_keys_members 0 entries relation, fun index inside => ?_,
    ClauseEntry.drop_members 0 entries relation⟩,
    fun other => ⟨eq_of_toJson, same_toJson _ other⟩⟩
  rw [ClauseEntry.getElem?_members inside 0 relation, Nat.zero_add]

def sizes (bounds : List (String × Json)) : ClauseList :=
  ⟨[.group [] none, .comparison "size" (.obj bounds) "IN" "NUMERIC", .group [] (some .and)], none⟩

theorem swapped_bounds_are_the_same_sizes :
    (sizes [("low", .int 1), ("high", .int 2)]).same (sizes [("high", .int 2), ("low", .int 1)]) =
        true ∧
      (sizes [("low", .int 1), ("high", .int 2)]).toJson ≠
        (sizes [("high", .int 2), ("low", .int 1)]).toJson := by
  obtain ⟨recovered, same⟩ :=
    (toJson_recovers_clauses (sizes [("low", .int 1), ("high", .int 2)])).2
      (sizes [("high", .int 2), ("low", .int 1)])
  refine ⟨same.symm.trans rfl, fun alike => ?_⟩
  have bounds := recovered alike
  simp [sizes] at bounds

end ClauseList
end ContentQuery
