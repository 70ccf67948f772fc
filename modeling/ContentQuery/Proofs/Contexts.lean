import ContentQuery.Proofs.Inputs

namespace ContentQuery

inductive Member (α χ : Type) where
  | filter (filter : Placed α)
  | scope (inner : χ)

-- A kind of nested contexts: what a context adds and the relations its own calls
-- name, both in call order, at the level where the context stands. `group` is
-- what becomes of it.
structure Contexts (α χ γ : Type) where
  members : Nat → χ → List (Member α χ)
  names : Nat → χ → List String
  normalize : Nat → α → γ
  leaf : γ → ClauseEntry
  group : Nat → χ → Node γ

def lastRelation (names : List String) : Relation := (names.getLast?.map Relation.ofName).getD .and

def Node.children {γ : Type} : Node γ → List (Node γ)
  | .clause _ => []
  | .group _ _ nodes => nodes

def ClauseEntry.children : ClauseEntry → List ClauseEntry
  | .group entries _ => entries
  | _ => []

def Node.at? {γ : Type} (node : Node γ) : List Nat → Option (Node γ)
  | [] => some node
  | index :: path => node.children[index]?.bind fun child => child.at? path

def ClauseEntry.at? (entry : ClauseEntry) : List Nat → Option ClauseEntry
  | [] => some entry
  | index :: path => entry.children[index]?.bind fun child => child.at? path

namespace Contexts
open Compilation
variable {α χ γ : Type} (kind : Contexts α χ γ)

def node (level : Nat) : Member α χ → Node γ
  | .filter filter => filter.clauseAt kind.normalize level
  | .scope inner => kind.group (level + 1) inner

def inside (level : Nat) : Member α χ → List (Member α χ)
  | .filter _ => []
  | .scope inner => kind.members (level + 1) inner

def at? (level : Nat) (member : Member α χ) : List Nat → Option (Member α χ)
  | [] => some member
  | index :: path => (kind.inside level member)[index]?.bind fun found => at? (level + 1) found path

-- A context one level further in, with one node for each member and the relation
-- that its own calls named last.
def resolved (level : Nat) : Member α χ → Node γ
  | .filter filter => .clause (kind.normalize (filter.level.getD level) filter.filter)
  | .scope inner =>
    .group (lastRelation (kind.names (level + 1) inner)) (level + 1)
      ((kind.members (level + 1) inner).map (kind.node (level + 1)))

-- The same without the levels. The one a filter may fix is not looked at.
def compiled (level : Nat) : Member α χ → ClauseEntry
  | .filter filter => kind.leaf (kind.normalize level filter.filter)
  | .scope inner =>
    .group ((kind.members (level + 1) inner).map fun member =>
        entryOf kind.leaf (kind.node (level + 1) member))
      (some (lastRelation (kind.names (level + 1) inner)))

-- At every path from a member stands what the member found there comes to, and
-- nothing where no member is found.
def Faithful : Prop :=
  ∀ level member path,
    (kind.node level member).at? path =
      (kind.at? level member path).map (kind.resolved (level + path.length)) ∧
    (entryOf kind.leaf (kind.node level member)).at? path =
      (kind.at? level member path).map (kind.compiled (level + path.length))

-- What a context is related by after one more call, `sets` being what that call
-- says of it.
structure RelatedBy {calls : Type} (context : List calls → χ)
    (sets : Nat → calls → Option Relation) : Prop where
  unspoken : ∀ level, lastRelation (kind.names level (context [])) = .and
  further : ∀ level before call,
    lastRelation (kind.names level (context (before ++ [call]))) =
      (sets level call).getD (lastRelation (kind.names level (context before)))

def Levelled (levelOf : γ → Nat) : Prop :=
  ∀ level member path filter, kind.at? level member path = some (.filter filter) →
    ∃ clause, (kind.node level member).at? path = some (.clause clause) ∧
      levelOf clause = filter.level.getD (level + path.length)

def Shows (fields : γ → ClauseEntry) : Prop :=
  ∀ level member, kind.compiled level member = match member with
    | .filter filter => fields (kind.normalize level filter.filter)
    | .scope inner =>
      .group ((kind.members (level + 1) inner).map (kind.compiled (level + 1)))
        (some (lastRelation (kind.names (level + 1) inner)))

structure Lawful : Prop where
  groups : ∀ level inner, kind.group level inner =
    .group (lastRelation (kind.names level inner)) level
      ((kind.members level inner).map (kind.node level))
  bare : ∀ clause, (kind.leaf clause).children = []
  unlevelled : ∀ level other filter,
    kind.leaf (kind.normalize level filter) = kind.leaf (kind.normalize other filter)

theorem entriesOf_eq_map (leaf : γ → ClauseEntry) (nodes : List (Node γ)) :
    entryOf.entriesOf leaf nodes = nodes.map (entryOf leaf) := by
  induction nodes with
  | nil => rfl
  | cons node rest ih => rw [entryOf.entriesOf, ih, List.map_cons]

theorem children_entryOf {leaf : γ → ClauseEntry} (bare : ∀ clause, (leaf clause).children = [])
    (node : Node γ) : (entryOf leaf node).children = node.children.map (entryOf leaf) := by
  cases node with
  | clause clause => exact bare clause
  | group relation level nodes => exact entriesOf_eq_map leaf nodes

section Faithful
variable {kind} (lawful : kind.Lawful)
include lawful

theorem node_eq_resolved (level : Nat) (member : Member α χ) :
    kind.node level member = kind.resolved level member := by
  cases member with
  | filter filter => rfl
  | scope inner => exact lawful.groups (level + 1) inner

theorem entryOf_node (level : Nat) (member : Member α χ) :
    entryOf kind.leaf (kind.node level member) = kind.compiled level member := by
  cases member with
  | filter filter => exact lawful.unlevelled _ _ _
  | scope inner =>
    rw [node_eq_resolved lawful, resolved, entryOf, entriesOf_eq_map, List.map_map]
    rfl

theorem children_node (level : Nat) (member : Member α χ) :
    (kind.node level member).children = (kind.inside level member).map (kind.node (level + 1)) := by
  rw [node_eq_resolved lawful]
  cases member <;> rfl

-- The induction is on the path: one step down is one level further in.
theorem node_at? (level : Nat) (member : Member α χ) (path : List Nat) :
    (kind.node level member).at? path =
      (kind.at? level member path).map (kind.node (level + path.length)) := by
  induction path generalizing level member with
  | nil => rfl
  | cons index rest ih =>
    have deeper : level + (index :: rest).length = level + 1 + rest.length := by
      rw [List.length_cons]
      omega
    rw [Node.at?, at?, children_node lawful, List.getElem?_map, deeper]
    cases (kind.inside level member)[index]? with
    | none => rfl
    | some found => exact ih (level + 1) found

theorem entryOf_at? (node : Node γ) (path : List Nat) :
    (entryOf kind.leaf node).at? path = (node.at? path).map (entryOf kind.leaf) := by
  induction path generalizing node with
  | nil => rfl
  | cons index rest ih =>
    rw [ClauseEntry.at?, Node.at?, children_entryOf lawful.bare, List.getElem?_map]
    cases node.children[index]? with
    | none => rfl
    | some child => exact ih child

theorem shows_of_lawful {fields : γ → ClauseEntry}
    (shown : ∀ clause, kind.leaf clause = fields clause) : kind.Shows fields := by
  intro level member
  cases member with
  | filter filter => exact shown _
  | scope inner =>
    have each : (fun member => entryOf kind.leaf (kind.node (level + 1) member)) =
        kind.compiled (level + 1) := funext (entryOf_node lawful (level + 1))
    rw [compiled, each]

theorem levelled_of_lawful {levelOf : γ → Nat}
    (kept : ∀ level filter, levelOf (kind.normalize level filter) = level) :
    kind.Levelled levelOf := by
  intro level member path filter found
  refine ⟨_, ?_, kept _ filter.filter⟩
  rw [node_at? lawful, found]
  rfl

theorem faithful_of_lawful : kind.Faithful := by
  intro level member path
  rw [entryOf_at? lawful, node_at? lawful]
  constructor
  · congr 1
    funext found
    exact node_eq_resolved lawful _ found
  · rw [Option.map_map]
    congr 1
    funext found
    exact entryOf_node lawful _ found

end Faithful
end Contexts

theorem scopeRelation_eq {α : Type} (level : Nat) (calls : List (ScopeCall α)) :
    scopeRelation level calls = lastRelation (calls.filterMap (ScopeCall.relation? level)) := by
  have last : ∀ start : Option String,
      calls.foldl (fun name call => (call.relation? level).or name) start =
        (calls.filterMap (ScopeCall.relation? level)).getLast?.or start := by
    induction calls with
    | nil => intro start; rfl
    | cons call rest ih =>
      intro start
      rw [List.foldl_cons, ih]
      cases named : call.relation? level with
      | none => simp [named]
      | some name =>
        rw [List.filterMap_cons_some named, List.getLast?_cons]
        cases (rest.filterMap (ScopeCall.relation? level)).getLast? <;> rfl
  rw [scopeRelation, last, Option.or_none]
  rfl

theorem lastRelation_append (names : List String) (name : Option String) :
    lastRelation (names ++ name.toList) = (name.map Relation.ofName).getD (lastRelation names) := by
  cases name with
  | none => rw [Option.toList_none, List.append_nil]; rfl
  | some name => simp [lastRelation]

section Scopes
variable {α γ : Type}

def ScopeCall.sets (level : Nat) : ScopeCall α → Option Relation
  | .add filter => filter.relation.map Relation.ofName
  | .addOr _ => some .or
  | .addAt filter => (filter level).relation.map Relation.ofName
  | .relate name => some (Relation.ofName name)
  | .nest _ => none

theorem ScopeCall.sets_eq (level : Nat) (call : ScopeCall α) :
    call.sets level = (call.relation? level).map Relation.ofName := by
  cases call with
  | addOr filter => exact congrArg some (Relation.ofName_eq "OR").symm
  | _ => rfl

def ScopeCall.member? (level : Nat) : ScopeCall α → Option (Member α (List (ScopeCall α)))
  | .add filter | .addOr filter => some (.filter filter)
  | .addAt filter => some (.filter (filter level))
  | .relate _ => none
  | .nest calls => some (.scope calls)

def scopes (normalize : Nat → α → γ) (leaf : γ → ClauseEntry) :
    Contexts α (List (ScopeCall α)) γ where
  members level calls := calls.filterMap (ScopeCall.member? level)
  names level calls := calls.filterMap (ScopeCall.relation? level)
  normalize := normalize
  leaf := leaf
  group := scopeGroup normalize

theorem scopeNodes_eq (normalize : Nat → α → γ) (leaf : γ → ClauseEntry) (level : Nat)
    (calls : List (ScopeCall α)) :
    scopeNodes normalize level calls =
      ((scopes normalize leaf).members level calls).map ((scopes normalize leaf).node level) := by
  induction calls with
  | nil => rfl
  | cons call rest ih =>
    rw [scopeNodes, ih]
    cases call <;> rfl

theorem lawful_scopes {normalize : Nat → α → γ} {leaf : γ → ClauseEntry}
    (bare : ∀ clause, (leaf clause).children = [])
    (unlevelled : ∀ level other filter,
      leaf (normalize level filter) = leaf (normalize other filter)) :
    (scopes normalize leaf).Lawful := by
  refine ⟨?_, bare, unlevelled⟩
  intro level calls
  change scopeGroup normalize level calls = _
  rw [scopeGroup, scopeRelation_eq, scopeNodes_eq normalize leaf]
  rfl

theorem relatedBy_scopes (normalize : Nat → α → γ) (leaf : γ → ClauseEntry) :
    (scopes normalize leaf).RelatedBy id ScopeCall.sets := by
  refine ⟨fun _ => rfl, ?_⟩
  intro level before call
  rw [ScopeCall.sets_eq, ← lastRelation_append]
  simp only [scopes, id, List.filterMap_append, List.filterMap_cons, List.filterMap_nil]
  cases call.relation? level <;> rfl

mutual

def Input.parts : Input α → List (Member α (List (ScopeCall α)))
  | .single filter => [.filter filter]
  | .several inputs => partsAll inputs
  | .scope calls _ => [.scope calls]

def Input.partsAll : List (Input α) → List (Member α (List (ScopeCall α)))
  | [] => []
  | input :: rest => input.parts ++ partsAll rest

end

mutual

theorem Input.nodes_eq (normalize : Nat → α → γ) (leaf : γ → ClauseEntry) :
    ∀ input : Input α, input.nodes normalize =
      input.parts.map ((scopes normalize leaf).node topLevel)
  | .single _ | .scope _ _ => rfl
  | .several inputs => nodesAll_eq normalize leaf inputs

theorem Input.nodesAll_eq (normalize : Nat → α → γ) (leaf : γ → ClauseEntry) :
    ∀ inputs : List (Input α), nodesAll normalize inputs =
      (partsAll inputs).map ((scopes normalize leaf).node topLevel)
  | [] => rfl
  | input :: rest => by
    rw [nodesAll, partsAll, List.map_append, nodes_eq normalize leaf input,
      nodesAll_eq normalize leaf rest]

end

end Scopes

def metaContexts : Contexts MetaFilter (List MetaCall) MetaClause :=
  scopes MetaFilter.clause Compilation.metaEntry

theorem lawful_metaContexts : metaContexts.Lawful :=
  lawful_scopes (fun _ => rfl) (fun _ _ _ => rfl)

section Taxonomies

abbrev TaxonomyContext := Option String × List TaxonomyCall

def TaxonomyCall.members (level : Nat) (selected : Option String) :
    List TaxonomyCall → List (Member TaxonomyFilter TaxonomyContext)
  | [] => []
  | .add filter :: rest | .addOr filter :: rest => .filter filter :: members level selected rest
  | .addAt filter :: rest => .filter (filter level) :: members level selected rest
  | .relate _ :: rest => members level selected rest
  | .select taxonomy :: rest => members level (some taxonomy) rest
  | .matching field terms :: rest =>
    .filter (selectedTerms selected field terms) :: members level selected rest
  | .nest calls :: rest => .scope (none, calls) :: members level selected rest

def TaxonomyCall.relation? (level : Nat) : TaxonomyCall → Option String
  | .add filter => filter.relation
  | .addOr _ => some Relation.or.token
  | .addAt filter => (filter level).relation
  | .relate name => some name
  | .select _ | .matching _ _ | .nest _ => none

def TaxonomyCall.sets (level : Nat) : TaxonomyCall → Option Relation
  | .add filter => filter.relation.map Relation.ofName
  | .addOr _ => some .or
  | .addAt filter => (filter level).relation.map Relation.ofName
  | .relate name => some (Relation.ofName name)
  | .select _ | .matching _ _ | .nest _ => none

theorem TaxonomyCall.sets_eq (level : Nat) (call : TaxonomyCall) :
    call.sets level = (call.relation? level).map Relation.ofName := by
  cases call with
  | addOr filter => exact congrArg some (Relation.ofName_eq "OR").symm
  | _ => rfl

def taxonomyContexts : Contexts TaxonomyFilter TaxonomyContext TaxonomyClause where
  members level context := TaxonomyCall.members level context.1 context.2
  names level context := context.2.filterMap (TaxonomyCall.relation? level)
  normalize := TaxonomyFilter.clause
  leaf := Compilation.taxonomyEntry
  group level context :=
    scopeGroup TaxonomyFilter.clause level (TaxonomyCall.expand context.1 context.2)

theorem relatedBy_taxonomyContexts (selected : Option String) :
    taxonomyContexts.RelatedBy (fun calls => (selected, calls)) TaxonomyCall.sets := by
  refine ⟨fun _ => rfl, ?_⟩
  intro level before call
  rw [TaxonomyCall.sets_eq, ← lastRelation_append]
  simp only [taxonomyContexts, List.filterMap_append, List.filterMap_cons, List.filterMap_nil]
  cases call.relation? level <;> rfl

theorem names_expand (level : Nat) (selected : Option String) (calls : List TaxonomyCall) :
    (TaxonomyCall.expand selected calls).filterMap (ScopeCall.relation? level) =
      calls.filterMap (TaxonomyCall.relation? level) := by
  induction calls generalizing selected with
  | nil => rw [TaxonomyCall.expand]; rfl
  | cons call rest ih =>
    cases call <;>
      simp [TaxonomyCall.expand, TaxonomyCall.relation?, ScopeCall.relation?,
        TaxonomyCall.selectedTerms, List.filterMap_cons, ih]

theorem nodes_expand (level : Nat) (selected : Option String) (calls : List TaxonomyCall) :
    scopeNodes TaxonomyFilter.clause level (TaxonomyCall.expand selected calls) =
      (TaxonomyCall.members level selected calls).map (taxonomyContexts.node level) := by
  induction calls generalizing selected with
  | nil => rw [TaxonomyCall.expand]; rfl
  | cons call rest ih =>
    cases call with
    | select taxonomy =>
      rw [TaxonomyCall.expand]
      exact ih (some taxonomy)
    | _ =>
      rw [TaxonomyCall.expand, scopeNodes, ih]
      rfl

theorem lawful_taxonomyContexts : taxonomyContexts.Lawful := by
  refine ⟨?_, fun _ => rfl, fun _ _ _ => rfl⟩
  intro level context
  change scopeGroup TaxonomyFilter.clause level (TaxonomyCall.expand context.1 context.2) = _
  rw [scopeGroup, scopeRelation_eq, names_expand, nodes_expand]
  rfl

mutual

def TaxonomyInput.parts : TaxonomyInput → List (Member TaxonomyFilter TaxonomyContext)
  | .single filter => [.filter filter]
  | .several inputs => partsAll inputs
  | .scope selected calls _ => [.scope (selected, calls)]

def TaxonomyInput.partsAll :
    List TaxonomyInput → List (Member TaxonomyFilter TaxonomyContext)
  | [] => []
  | input :: rest => input.parts ++ partsAll rest

end

mutual

theorem TaxonomyInput.nodes_eq : ∀ input : TaxonomyInput,
    input.expand.nodes TaxonomyFilter.clause = input.parts.map (taxonomyContexts.node topLevel)
  | .single _ | .scope _ _ _ => rfl
  | .several inputs => nodesAll_eq inputs

theorem TaxonomyInput.nodesAll_eq : ∀ inputs : List TaxonomyInput,
    Input.nodesAll TaxonomyFilter.clause (expandAll inputs) =
      (partsAll inputs).map (taxonomyContexts.node topLevel)
  | [] => rfl
  | input :: rest => by
    rw [expandAll, Input.nodesAll, partsAll, List.map_append, nodes_eq input, nodesAll_eq rest]

end

end Taxonomies

theorem MetaInput.build_eq_parts (input : MetaInput) : input.build =
    ⟨(Input.parts input).map (metaContexts.node topLevel), .ofList (Input.records input)⟩ := by
  rw [MetaInput.build_eq, Input.nodes_eq MetaFilter.clause Compilation.metaEntry]
  rfl

theorem TaxonomyInput.build_eq_parts (input : TaxonomyInput) : input.build =
    ⟨input.parts.map (taxonomyContexts.node topLevel), .ofList input.records⟩ := by
  rw [TaxonomyInput.build_eq, TaxonomyInput.nodes_eq]

theorem MetaInput.entries_eq (input : MetaInput) :
    input.entries = (Input.parts input).map (metaContexts.compiled topLevel) := by
  rw [entries, Input.nodes_eq MetaFilter.clause Compilation.metaEntry, List.map_map]
  exact List.map_congr_left fun member _ => Contexts.entryOf_node lawful_metaContexts topLevel member

theorem TaxonomyInput.entries_eq (input : TaxonomyInput) :
    input.entries = input.parts.map (taxonomyContexts.compiled topLevel) := by
  rw [entries, TaxonomyInput.nodes_eq, List.map_map]
  exact List.map_congr_left fun member _ =>
    Contexts.entryOf_node lawful_taxonomyContexts topLevel member

-- Inputs of both kinds are resolved and compiled member by member at every depth.
-- A context is related by what its own calls said last, a clause has the level of
-- its context unless its filter fixes one, and an entry keeps all else of it. The
-- relations recorded for the query are those of the inputs alone.
theorem contexts_faithful :
    (∀ name, Relation.ofName name = if name ∈ Relation.orSpellings then .or else .and) ∧
    (metaContexts.Faithful ∧ metaContexts.RelatedBy id ScopeCall.sets ∧
      metaContexts.Levelled MetaClause.level ∧
      (metaContexts.Shows fun clause =>
        .comparison clause.column clause.value clause.operator clause.comparator) ∧
      ∀ input : MetaInput, input.build =
        ⟨(Input.parts input).map (metaContexts.node topLevel), .ofList (Input.records input)⟩) ∧
    (taxonomyContexts.Faithful ∧
      (∀ selected, taxonomyContexts.RelatedBy (fun calls => (selected, calls)) TaxonomyCall.sets) ∧
      taxonomyContexts.Levelled TaxonomyClause.level ∧
      (taxonomyContexts.Shows fun clause => .taxonomy clause.taxonomy clause.field clause.terms
        clause.includeChildren clause.operator) ∧
      ∀ input : TaxonomyInput, input.build =
        ⟨input.parts.map (taxonomyContexts.node topLevel), .ofList input.records⟩) := by
  refine ⟨Relation.ofName_eq, ⟨?_, ?_, ?_, ?_, ?_⟩, ?_, ?_, ?_, ?_, ?_⟩
  · exact Contexts.faithful_of_lawful lawful_metaContexts
  · exact relatedBy_scopes MetaFilter.clause Compilation.metaEntry
  · exact Contexts.levelled_of_lawful lawful_metaContexts fun _ _ => rfl
  · exact Contexts.shows_of_lawful lawful_metaContexts fun _ => rfl
  · exact MetaInput.build_eq_parts
  · exact Contexts.faithful_of_lawful lawful_taxonomyContexts
  · exact relatedBy_taxonomyContexts
  · exact Contexts.levelled_of_lawful lawful_taxonomyContexts fun _ _ => rfl
  · exact Contexts.shows_of_lawful lawful_taxonomyContexts fun _ => rfl
  · exact TaxonomyInput.build_eq_parts

def deepMetas : List MetaCall :=
  [.add { filter := { column := "size", operator := some (.str "M") }
          relation := some "oR"
          level := some 7 },
    .nest [.addOr { filter := { column := "color", operator := some (.str "red") } },
      .relate "neither",
      .nest [.addAt fun level =>
          { filter := { column := "price", operator := some (.str "<"), value := some (.int level) } },
        .relate "or",
        .nest []]]]

def deepTaxonomies : List TaxonomyCall :=
  [.select "genre",
    .slug (.str "jazz"),
    .nest [.name (.str "blues"), .relate "xor", .select "mood",
      .nest [.id (.int 4), .addOr { filter := { taxonomy := "label", operator := some (.int 9) } }],
      .id (.int 5)]]

theorem deep_contexts_compiled :
    ((metaContexts.node topLevel (.scope deepMetas)).at? [0] =
        some (.clause ⟨"size", "=", .str "M", "CHAR", 7⟩) ∧
      (metaContexts.node topLevel (.scope deepMetas)).at? [1, 1] =
        some (.group .or 4 [.clause ⟨"price", "<", .int 4, "CHAR", 4⟩, .group .and 5 []]) ∧
      Compilation.entryOf Compilation.metaEntry (metaContexts.node topLevel (.scope deepMetas)) =
        .group [.comparison "size" (.str "M") "=" "CHAR",
          .group [.comparison "color" (.str "red") "=" "CHAR",
            .group [.comparison "price" (.int 4) "<" "CHAR", .group [] (some .and)] (some .or)]
            (some .and)] (some .or)) ∧
    (taxonomyContexts.node topLevel (.scope (none, deepTaxonomies))).at? [1, 2] =
        some (.clause ⟨"mood", "term_id", "IN", .int 5, true, 3⟩) ∧
      (taxonomyContexts.node topLevel (.scope (none, deepTaxonomies))).at? [1, 1] =
        some (.group .or 4 [.clause ⟨"", "term_id", "IN", .int 4, true, 4⟩,
          .clause ⟨"label", "term_id", "IN", .int 9, true, 4⟩]) ∧
      (Compilation.entryOf Compilation.taxonomyEntry
          (taxonomyContexts.node topLevel (.scope (none, deepTaxonomies)))).at? [1, 1] =
        some (.group [.taxonomy "" "term_id" (.int 4) true "IN",
          .taxonomy "label" "term_id" (.int 9) true "IN"] (some .or)) := by
  obtain ⟨_, ⟨metas, _⟩, taxonomies, _⟩ := contexts_faithful
  have genre := taxonomies topLevel (.scope (none, deepTaxonomies))
  refine ⟨⟨?_, ?_, ?_⟩, ?_, ?_, ?_⟩
  · exact (metas topLevel (.scope deepMetas) [0]).1.trans rfl
  · exact (metas topLevel (.scope deepMetas) [1, 1]).1.trans rfl
  · exact Option.some.inj ((metas topLevel (.scope deepMetas) []).2.trans rfl)
  · exact (genre [1, 2]).1.trans rfl
  · exact (genre [1, 1]).1.trans rfl
  · exact (genre [1, 1]).2.trans rfl

end ContentQuery
