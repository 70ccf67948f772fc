import ContentQuery.Proofs.OneArgument

namespace ContentQuery

-- The two arguments that are lists of clauses. Each is fed by two bindings, one
-- with the clauses and one with the relations.
inductive Compound where
  | metas
  | taxonomies
  deriving Repr, DecidableEq

namespace Compound
open Compilation

def other : Compound → Compound
  | metas => taxonomies
  | taxonomies => metas

def argument : Compound → String
  | metas => Vocabulary.metaQuery
  | taxonomies => Vocabulary.taxonomyQuery

def clauseName : Compound → String
  | metas => Vocabulary.metaClauses
  | taxonomies => Vocabulary.taxonomyClauses

def relationName : Compound → String
  | metas => Vocabulary.metaRelation
  | taxonomies => Vocabulary.taxonomyRelation

def gathered? : Compound → Binding → Option (List ClauseEntry)
  | metas, .metas nodes => some (nodes.map (entryOf metaEntry))
  | taxonomies, .taxonomies nodes => some (nodes.map (entryOf taxonomyEntry))
  | _, _ => none

def slot (compound : Compound) (bindings : Bindings) : Option (List ClauseEntry) :=
  (bindings.get? compound.clauseName).bind compound.gathered?

def levels (compound : Compound) (bindings : Bindings) : LevelRelations :=
  ((bindings.get? compound.relationName).bind Binding.relations?).getD .empty

theorem names_apart (compound : Compound) :
    compound.clauseName ≠ compound.relationName ∧
      compound.clauseName ≠ Vocabulary.plainClauses ∧
      compound.relationName ≠ Vocabulary.plainClauses := by
  cases compound <;> decide

theorem start_argument (compound : Compound) (lookup : Lookup) (bindings : Bindings) :
    start lookup bindings compound.argument = none := by
  have apart : compound.argument ≠ Vocabulary.postType ∧
      Vocabulary.isArgument compound.argument = false := by
    cases compound <;> decide
  simp [start, apart]

section Updates
variable (compound : Compound) (binding : Binding) (held : Option Argument)

theorem update_clauses :
    update compound.argument compound.clauseName binding held =
      ((compound.gathered? binding).map (grown held)).or held := by
  cases compound <;> cases binding <;>
    simp [update, gathered?, argument, clauseName, Vocabulary.metaClauses, Vocabulary.taxonomyClauses,
      Vocabulary.metaRelation, Vocabulary.taxonomyRelation, Vocabulary.plainClauses, Vocabulary.limit,
      Vocabulary.isArgument, Vocabulary.arguments]

theorem update_relations :
    update compound.argument compound.relationName binding held =
      (((binding.relations?).bind LevelRelations.lowest).map (related held)).or held := by
  cases compound <;> cases binding <;>
    simp [update, Binding.relations?, argument, relationName, Vocabulary.metaClauses,
      Vocabulary.taxonomyClauses, Vocabulary.metaRelation, Vocabulary.taxonomyRelation,
      Vocabulary.plainClauses, Vocabulary.limit, Vocabulary.isArgument, Vocabulary.arguments]

theorem update_plainClauses :
    update compound.argument Vocabulary.plainClauses binding held =
      ((valueAt compound.argument (binding.plain?.getD [])).map .value).or held := by
  cases compound <;> cases binding <;>
    simp [update, valueAt, Binding.plain?, argument, Vocabulary.plainClauses, Vocabulary.metaClauses,
      Vocabulary.taxonomyClauses, Vocabulary.metaRelation, Vocabulary.taxonomyRelation,
      Vocabulary.limit, Vocabulary.isArgument, Vocabulary.arguments]

theorem update_elsewhere {name : String} (offPlain : name ≠ Vocabulary.plainClauses)
    (offClauses : name ≠ compound.clauseName) (offRelations : name ≠ compound.relationName) :
    update compound.argument name binding held = held := by
  have apart : compound.argument ≠ Vocabulary.pageSize ∧
      Vocabulary.isArgument compound.argument = false := by
    cases compound <;> decide
  cases binding with
  | plain clauses => simp [update, offPlain]
  | value value =>
    have copied : ¬ (Vocabulary.isArgument name ∧ name ≠ Vocabulary.postType ∧
        compound.argument = name) := by
      intro given
      obtain ⟨known, _, same⟩ := given
      simp [← same, apart] at known
    by_cases here : name = Vocabulary.limit
    · simp [update, here, apart]
    · simp only [update, here, copied, if_false]
  | metas nodes =>
    have off : ¬ (name = Vocabulary.metaClauses ∧ compound.argument = Vocabulary.metaQuery) := by
      intro given
      obtain ⟨rfl, same⟩ := given
      cases compound with
      | metas => exact offClauses rfl
      | taxonomies => exact absurd same (by decide)
    simp only [update, off, if_false]
  | taxonomies nodes =>
    have off : ¬ (name = Vocabulary.taxonomyClauses ∧
        compound.argument = Vocabulary.taxonomyQuery) := by
      intro given
      obtain ⟨rfl, same⟩ := given
      cases compound with
      | metas => exact absurd same (by decide)
      | taxonomies => exact offClauses rfl
    simp only [update, off, if_false]
  | relations relations =>
    have off : ¬ (name = Vocabulary.metaRelation ∧ compound.argument = Vocabulary.metaQuery ∨
        name = Vocabulary.taxonomyRelation ∧ compound.argument = Vocabulary.taxonomyQuery) := by
      intro given
      rcases given with ⟨rfl, same⟩ | ⟨rfl, same⟩
      · cases compound with
        | metas => exact offRelations rfl
        | taxonomies => exact absurd same (by decide)
      · cases compound with
        | metas => exact absurd same (by decide)
        | taxonomies => exact offRelations rfl
    simp only [update, off, if_false]

end Updates

-- What the list of a compound has become once clauses and a relation were added
-- to what was held. Their order does not matter.
def merged (held : Option Argument) : Option (List ClauseEntry) → Option Relation → Option Argument
  | none, none => held
  | entries, relation =>
    some (.clauses ⟨(heldList held).entries ++ entries.getD [], relation.or (heldList held).relation⟩)

theorem merged_grown (held : Option Argument) (entries : Option (List ClauseEntry))
    (relation : Option Relation) :
    merged ((entries.map (grown held)).or held) none relation = merged held entries relation := by
  cases entries <;> cases relation <;> simp [merged, grown, heldList, Argument.clauses?]

theorem merged_related (held : Option Argument) (entries : Option (List ClauseEntry))
    (relation : Option Relation) :
    merged ((relation.map (related held)).or held) entries none = merged held entries relation := by
  cases entries <;> cases relation <;> simp [merged, related, heldList, Argument.clauses?]

-- Bindings of which no plain clause writes the argument come to the clauses and
-- the relation found among them, in whichever order these stand.
theorem foldl_update (compound : Compound) {entries : List (String × Binding)}
    (distinct : (entries.map Prod.fst).Nodup)
    (quiet : ∀ entry ∈ entries, entry.1 = Vocabulary.plainClauses →
      ∀ held, update compound.argument Vocabulary.plainClauses entry.2 held = held)
    (held : Option Argument) :
    entries.foldl (fun held entry => update compound.argument entry.1 entry.2 held) held =
      merged held ((entries.lookup compound.clauseName).bind compound.gathered?)
        (((entries.lookup compound.relationName).bind Binding.relations?).bind
          LevelRelations.lowest) := by
  induction entries generalizing held with
  | nil => rfl
  | cons entry rest ih =>
    obtain ⟨name, binding⟩ := entry
    obtain ⟨fresh, distinctRest⟩ := List.nodup_cons.mp distinct
    have quietRest := fun entry member => quiet entry (List.mem_cons_of_mem _ member)
    obtain ⟨apart, clausesApart, relationsApart⟩ := compound.names_apart
    rw [List.foldl_cons, ih distinctRest quietRest]
    by_cases clauses : name = compound.clauseName
    · subst clauses
      rw [OrderedMap.lookup_eq_none_iff_not_mem.mpr fresh, update_clauses,
        OrderedMap.lookup_cons_of_ne apart.symm, List.lookup_cons_self]
      exact merged_grown held _ _
    · by_cases relations : name = compound.relationName
      · subst relations
        rw [OrderedMap.lookup_eq_none_iff_not_mem.mpr fresh, update_relations,
          OrderedMap.lookup_cons_of_ne apart, List.lookup_cons_self]
        exact merged_related held _ _
      · have unchanged : update compound.argument name binding held = held := by
          by_cases plain : name = Vocabulary.plainClauses
          · subst plain
            exact quiet _ List.mem_cons_self rfl held
          · exact update_elsewhere compound binding held plain clauses relations
        rw [unchanged, OrderedMap.lookup_cons_of_ne (Ne.symm clauses),
          OrderedMap.lookup_cons_of_ne (Ne.symm relations)]

end Compound
end ContentQuery
