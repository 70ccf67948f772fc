import ContentQuery.Vocabulary

namespace ContentQuery

-- One relation a nesting level, by rising level. The first one recorded stays.
structure LevelRelations where
  entries : List (Nat × Relation)
  rising : entries.Pairwise (fun lower higher => lower.1 < higher.1)
  deriving Repr, DecidableEq

namespace LevelRelations

def empty : LevelRelations := ⟨[], .nil⟩

instance : Inhabited LevelRelations := ⟨empty⟩

def place (level : Nat) (relation : Relation) : List (Nat × Relation) → List (Nat × Relation)
  | [] => [(level, relation)]
  | (other, kept) :: rest =>
    if level < other then (level, relation) :: (other, kept) :: rest
    else if level = other then (other, kept) :: rest
    else (other, kept) :: place level relation rest

theorem mem_place {level : Nat} {relation : Relation} {entries : List (Nat × Relation)}
    {entry : Nat × Relation} (placed : entry ∈ place level relation entries) :
    entry = (level, relation) ∨ entry ∈ entries := by
  induction entries with
  | nil => exact .inl (List.mem_singleton.mp placed)
  | cons head rest ih =>
    obtain ⟨other, kept⟩ := head
    simp only [place] at placed
    split at placed
    · exact List.mem_cons.mp placed
    · split at placed
      · exact .inr placed
      · rcases List.mem_cons.mp placed with same | later
        · exact .inr (same ▸ List.mem_cons_self)
        · exact (ih later).imp_right (List.mem_cons_of_mem _)

theorem rising_place (level : Nat) (relation : Relation) {entries : List (Nat × Relation)}
    (rising : entries.Pairwise fun lower higher => lower.1 < higher.1) :
    (place level relation entries).Pairwise fun lower higher => lower.1 < higher.1 := by
  induction entries with
  | nil => exact List.pairwise_singleton _ _
  | cons head rest ih =>
    obtain ⟨other, kept⟩ := head
    obtain ⟨above, tail⟩ := List.pairwise_cons.mp rising
    simp only [place]
    split
    · rename_i below
      refine List.pairwise_cons.mpr ⟨?_, rising⟩
      intro entry member
      rcases List.mem_cons.mp member with rfl | later
      · exact below
      · exact Nat.lt_trans below (above entry later)
    · split
      · exact rising
      · refine List.pairwise_cons.mpr ⟨?_, ih tail⟩
        intro entry member
        rcases mem_place member with rfl | old
        · change other < level
          omega
        · exact above entry old

def record (relations : LevelRelations) (level : Nat) (relation : Relation) : LevelRelations :=
  ⟨place level relation relations.entries, rising_place level relation relations.rising⟩

def recordEach (relations : LevelRelations) (more : List (Nat × Relation)) : LevelRelations :=
  more.foldl (fun relations entry => relations.record entry.1 entry.2) relations

def recordAll (relations more : LevelRelations) : LevelRelations := relations.recordEach more.entries

def ofList (entries : List (Nat × Relation)) : LevelRelations := empty.recordEach entries

def recordNamed (relations : LevelRelations) (level : Nat) (name : Option String) : LevelRelations :=
  match name with
  | some name => relations.record level (Relation.ofName name)
  | none => relations

def lowest (relations : LevelRelations) : Option Relation := relations.entries.head?.map Prod.snd

end LevelRelations

inductive Node (α : Type) where
  | clause (clause : α)
  | group (relation : Relation) (level : Nat) (nodes : List (Node α))
  deriving Repr

def topLevel : Nat := 1

structure Placed (α : Type) where
  filter : α
  relation : Option String := none
  level : Option Nat := none
  deriving Repr, DecidableEq

-- What can be said inside a nested context, in order. `addAt` is a filter made
-- from the level of the context it stands in.
inductive ScopeCall (α : Type) where
  | add (filter : Placed α)
  | addOr (filter : Placed α)
  | addAt (filter : Nat → Placed α)
  | relate (name : String)
  | nest (calls : List (ScopeCall α))

inductive Input (α : Type) where
  | single (filter : Placed α)
  | several (inputs : List (Input α))
  | scope (calls : List (ScopeCall α)) (relation : Option String)

structure Built (α : Type) where
  nodes : List (Node α)
  relations : LevelRelations
  deriving Repr

variable {α γ : Type}

def ScopeCall.relation? (level : Nat) : ScopeCall α → Option String
  | .add filter => filter.relation
  | .addOr _ => some Relation.or.token
  | .addAt filter => (filter level).relation
  | .relate name => some name
  | .nest _ => none

-- The last call that sets one decides; without any it is AND.
def scopeRelation (level : Nat) (calls : List (ScopeCall α)) : Relation :=
  let name := calls.foldl (fun name call => (call.relation? level).or name) none
  (name.map Relation.ofName).getD .and

def Placed.clauseAt (normalize : Nat → α → γ) (level : Nat) (filter : Placed α) : Node γ :=
  .clause (normalize (filter.level.getD level) filter.filter)

mutual

def ScopeCall.node? (normalize : Nat → α → γ) (level : Nat) : ScopeCall α → Option (Node γ)
  | .add filter => some (filter.clauseAt normalize level)
  | .addOr filter => some (filter.clauseAt normalize level)
  | .addAt filter => some ((filter level).clauseAt normalize level)
  | .relate _ => none
  | .nest calls =>
    some (.group (scopeRelation (level + 1) calls) (level + 1) (scopeNodes normalize (level + 1) calls))

def scopeNodes (normalize : Nat → α → γ) (level : Nat) : List (ScopeCall α) → List (Node γ)
  | [] => []
  | call :: rest => (call.node? normalize level).toList ++ scopeNodes normalize level rest

end

namespace Input

mutual

def withRelation (name : String) : Input α → Input α
  | .single filter => .single { filter with relation := some name }
  | .several inputs => .several (withRelations name inputs)
  | .scope calls _ => .scope calls (some name)

def withRelations (name : String) : List (Input α) → List (Input α)
  | [] => []
  | input :: rest => input.withRelation name :: withRelations name rest

end

mutual

-- A single filter counts at its own level, a nested context at the top level
-- whatever it holds.
def addTo (normalize : Nat → α → γ) (built : Built γ) : Input α → Built γ
  | .single filter =>
    ⟨built.nodes ++ [filter.clauseAt normalize topLevel],
      built.relations.recordNamed (filter.level.getD topLevel) filter.relation⟩
  | .several inputs => addAll normalize built inputs
  | .scope calls relation =>
    ⟨built.nodes ++ ((ScopeCall.nest calls).node? normalize topLevel).toList,
      built.relations.recordNamed topLevel relation⟩

def addAll (normalize : Nat → α → γ) (built : Built γ) : List (Input α) → Built γ
  | [] => built
  | input :: rest => addAll normalize (input.addTo normalize built) rest

end

def build (normalize : Nat → α → γ) (input : Input α) : Built γ :=
  input.addTo normalize ⟨[], .empty⟩

end Input
end ContentQuery
