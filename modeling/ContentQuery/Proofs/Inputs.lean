import ContentQuery.Clause.Meta
import ContentQuery.Clause.Taxonomy
import ContentQuery.Compilation
import ContentQuery.Proofs.LevelRelations

namespace ContentQuery
variable {α γ : Type}

def scopeGroup (normalize : Nat → α → γ) (level : Nat) (calls : List (ScopeCall α)) : Node γ :=
  .group (scopeRelation level calls) level (scopeNodes normalize level calls)

namespace Input

mutual

def nodes (normalize : Nat → α → γ) : Input α → List (Node γ)
  | .single filter => [filter.clauseAt normalize topLevel]
  | .several inputs => nodesAll normalize inputs
  | .scope calls _ => [scopeGroup normalize (topLevel + 1) calls]

def nodesAll (normalize : Nat → α → γ) : List (Input α) → List (Node γ)
  | [] => []
  | input :: rest => input.nodes normalize ++ nodesAll normalize rest

end

def recorded (level : Nat) (name : Option String) : List (Nat × Relation) :=
  name.toList.map fun name => (level, Relation.ofName name)

mutual

-- The relations an input records, in the order of its clauses. What is related
-- inside a nested context is not among them.
def records : Input α → List (Nat × Relation)
  | .single filter => recorded (filter.level.getD topLevel) filter.relation
  | .several inputs => recordsAll inputs
  | .scope _ relation => recorded topLevel relation

def recordsAll : List (Input α) → List (Nat × Relation)
  | [] => []
  | input :: rest => input.records ++ recordsAll rest

end

mutual

theorem records_of_bare {normalize : Nat → α → γ} :
    ∀ {input : Input α}, input.nodes normalize = [] → input.records = []
  | .several _, bare => recordsAll_of_bare bare

theorem recordsAll_of_bare {normalize : Nat → α → γ} :
    ∀ {inputs : List (Input α)}, nodesAll normalize inputs = [] → recordsAll inputs = []
  | [], _ => rfl
  | input :: rest, bare => by
    obtain ⟨first, others⟩ := List.append_eq_nil_iff.mp bare
    rw [recordsAll, records_of_bare first, recordsAll_of_bare others]
    rfl

end

theorem recordNamed_eq_recordEach (relations : LevelRelations) (level : Nat) (name : Option String) :
    relations.recordNamed level name = relations.recordEach (recorded level name) := by
  cases name <;> rfl

mutual

-- Building threads one accumulator through the input; it comes to appending
-- what the input adds and recording what it records.
theorem addTo_eq (normalize : Nat → α → γ) (built : Built γ) :
    ∀ input : Input α, input.addTo normalize built =
      ⟨built.nodes ++ input.nodes normalize, built.relations.recordEach input.records⟩
  | .single filter => by
    rw [addTo, recordNamed_eq_recordEach]
    rfl
  | .several inputs => by
    rw [addTo, addAll_eq normalize built inputs]
    rfl
  | .scope calls relation => by
    rw [addTo, recordNamed_eq_recordEach]
    rfl

theorem addAll_eq (normalize : Nat → α → γ) (built : Built γ) :
    ∀ inputs : List (Input α), addAll normalize built inputs =
      ⟨built.nodes ++ nodesAll normalize inputs, built.relations.recordEach (recordsAll inputs)⟩
  | [] => by
    rw [addAll, nodesAll, recordsAll, List.append_nil]
    rfl
  | input :: rest => by
    rw [addAll, addTo_eq normalize built input, addAll_eq normalize _ rest, nodesAll, recordsAll,
      List.append_assoc, LevelRelations.recordEach_append]

end

theorem build_eq (normalize : Nat → α → γ) (input : Input α) :
    input.build normalize = ⟨input.nodes normalize, .ofList input.records⟩ := by
  rw [build, addTo_eq]
  rfl

end Input

def MetaInput.entries (input : MetaInput) : List ClauseEntry :=
  (Input.nodes MetaFilter.clause input).map (Compilation.entryOf Compilation.metaEntry)

def TaxonomyInput.entries (input : TaxonomyInput) : List ClauseEntry :=
  (input.expand.nodes TaxonomyFilter.clause).map (Compilation.entryOf Compilation.taxonomyEntry)

def TaxonomyInput.records (input : TaxonomyInput) : List (Nat × Relation) := input.expand.records

theorem MetaInput.build_eq (input : MetaInput) :
    input.build = ⟨Input.nodes MetaFilter.clause input, .ofList (Input.records input)⟩ :=
  Input.build_eq MetaFilter.clause input

theorem TaxonomyInput.build_eq (input : TaxonomyInput) :
    input.build = ⟨input.expand.nodes TaxonomyFilter.clause, .ofList input.records⟩ :=
  Input.build_eq TaxonomyFilter.clause input.expand

end ContentQuery
