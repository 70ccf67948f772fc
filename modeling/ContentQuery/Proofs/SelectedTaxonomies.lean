import ContentQuery.Proofs.Contexts

namespace ContentQuery

def Node.clause? {γ : Type} : Node γ → Option γ
  | .clause held => some held
  | .group _ _ _ => none

theorem Node.at?_append {γ : Type} (node : Node γ) (path rest : List Nat) :
    node.at? (path ++ rest) = (node.at? path).bind fun found => found.at? rest := by
  induction path generalizing node with
  | nil => rfl
  | cons index path ih =>
    rw [List.cons_append, at?, at?]
    cases node.children[index]? with
    | none => rfl
    | some child => exact ih child

def Member.scope? {α χ : Type} : Member α χ → Option χ
  | .filter _ => none
  | .scope inner => some inner

namespace TaxonomyCall

def adds : TaxonomyCall → Bool
  | .add _ | .addOr _ | .addAt _ | .matching _ _ | .nest _ => true
  | .relate _ | .select _ => false

def selection? : TaxonomyCall → Option String
  | .select taxonomy => some taxonomy
  | .add _ | .addOr _ | .addAt _ | .relate _ | .matching _ _ | .nest _ => none

-- What is selected behind these calls: the last selection among them, else the
-- one that their context was created with.
def selectedBehind (default : Option String) (calls : List TaxonomyCall) : Option String :=
  (calls.filterMap selection?).getLast?.or default

def written? (level : Nat) : TaxonomyCall → Option (Placed TaxonomyFilter)
  | .add filter | .addOr filter => some filter
  | .addAt filter => some (filter level)
  | .relate _ | .select _ | .matching _ _ | .nest _ => none

def scope? : TaxonomyCall → Option TaxonomyContext
  | .nest calls => some (none, calls)
  | .add _ | .addOr _ | .addAt _ | .relate _ | .select _ | .matching _ _ => none

def member? (level : Nat) (selected : Option String) :
    TaxonomyCall → Option (Member TaxonomyFilter TaxonomyContext)
  | .matching field terms => some (.filter (selectedTerms selected field terms))
  | .nest calls => some (.scope (none, calls))
  | call => (call.written? level).map .filter

def contextAt? (context : TaxonomyContext) : List Nat → Option TaxonomyContext
  | [] => some context
  | index :: path =>
    ((context.2.filter adds)[index]?.bind scope?).bind fun inner => contextAt? inner path

-- The same tree of calls, but for selections in the context at the path. There
-- any may be made, left out or put elsewhere.
inductive Reselected : List Nat → List TaxonomyCall → List TaxonomyCall → Prop where
  | here {calls calls' : List TaxonomyCall}
      (same : calls.filter (·.selection?.isNone) = calls'.filter (·.selection?.isNone)) :
      Reselected [] calls calls'
  | deeper {path : List Nat} {inner inner' : List TaxonomyCall} (before after : List TaxonomyCall)
      (within : Reselected path inner inner') :
      Reselected (before.countP adds :: path) (before ++ .nest inner :: after)
        (before ++ .nest inner' :: after)

section Members
variable (level : Nat) (selected : Option String)

theorem selectedBehind_cons (call : TaxonomyCall) (rest : List TaxonomyCall) :
    selectedBehind selected (call :: rest) =
      selectedBehind (call.selection?.or selected) rest := by
  unfold selectedBehind
  cases chosen : call.selection? with
  | none => rw [List.filterMap_cons_none chosen, Option.none_or]
  | some taxonomy =>
    rw [List.filterMap_cons_some chosen, List.getLast?_cons]
    cases (rest.filterMap selection?).getLast? <;> rfl

theorem members_cons (call : TaxonomyCall) (rest : List TaxonomyCall) :
    members level selected (call :: rest) =
      (member? level selected call).toList ++
        members level (call.selection?.or selected) rest := by
  cases call <;> rfl

theorem members_append (before after : List TaxonomyCall) :
    members level selected (before ++ after) =
      members level selected before ++ members level (selectedBehind selected before) after := by
  induction before generalizing selected with
  | nil => rfl
  | cons call rest ih =>
    rw [List.cons_append, members_cons, members_cons, ih, selectedBehind_cons, List.append_assoc]

theorem scopes_members (calls : List TaxonomyCall) :
    (members level selected calls).map Member.scope? = (calls.filter adds).map scope? := by
  induction calls generalizing selected with
  | nil => rfl
  | cons call rest ih =>
    rw [members_cons, List.map_append, ih]
    cases call <;> rfl

theorem scope_at (calls : List TaxonomyCall) (index : Nat) :
    (members level selected calls)[index]?.bind Member.scope? =
      (calls.filter adds)[index]?.bind scope? := by
  have same := congrArg (fun scopes => scopes[index]?.bind fun scope => scope)
    (scopes_members level selected calls)
  simpa only [List.getElem?_map, Option.bind_map, Function.comp_def] using same

theorem length_members (calls : List TaxonomyCall) :
    (members level selected calls).length = calls.countP adds := by
  have same := congrArg List.length (scopes_members level selected calls)
  rwa [List.length_map, List.length_map, ← List.countP_eq_length_filter] at same

theorem member_at {before : List TaxonomyCall} {call : TaxonomyCall}
    {member : Member TaxonomyFilter TaxonomyContext} (after : List TaxonomyCall)
    (made : member? level (selectedBehind selected before) call = some member) :
    (members level selected (before ++ call :: after))[before.countP adds]? = some member := by
  rw [members_append, members_cons, made, ← length_members level selected before,
    List.getElem?_append_right (Nat.le_refl _), Nat.sub_self]
  rfl

end Members

section Entries
variable (before after : List TaxonomyCall)

theorem entry_at {call : TaxonomyCall} (entry : call.adds = true) :
    ((before ++ call :: after).filter adds)[before.countP adds]? = some call := by
  rw [List.filter_append, List.filter_cons_of_pos entry, List.countP_eq_length_filter,
    List.getElem?_append_right (Nat.le_refl _), Nat.sub_self]
  rfl

theorem entry_elsewhere (call other : TaxonomyCall) (entry : call.adds = true)
    (alsoEntry : other.adds = true) {index : Nat} (apart : index ≠ before.countP adds) :
    ((before ++ call :: after).filter adds)[index]? =
      ((before ++ other :: after).filter adds)[index]? := by
  rw [List.countP_eq_length_filter] at apart
  rw [List.filter_append, List.filter_append, List.filter_cons_of_pos entry,
    List.filter_cons_of_pos alsoEntry, List.getElem?_append, List.getElem?_append]
  split
  · rfl
  · obtain ⟨behind, same⟩ : ∃ behind, index - (before.filter adds).length = behind + 1 :=
      ⟨index - (before.filter adds).length - 1, by omega⟩
    rw [same]
    rfl

end Entries

theorem adds_unselected (calls : List TaxonomyCall) :
    (calls.filter (·.selection?.isNone)).filter adds = calls.filter adds := by
  rw [List.filter_filter]
  congr 1
  funext call
  cases call <;> rfl

theorem own_of_contextAt? {context inner : TaxonomyContext} {path : List Nat}
    (found : contextAt? context path = some inner) :
    inner.1 = if path = [] then context.1 else none := by
  induction path generalizing context with
  | nil =>
    cases found
    rfl
  | cons index path ih =>
    obtain ⟨next, entered, found⟩ := Option.bind_eq_some_iff.mp found
    obtain ⟨call, _, nested⟩ := Option.bind_eq_some_iff.mp entered
    have fresh : next.1 = none := by
      cases call <;> cases nested
      rfl
    rw [ih found, fresh, ite_self, if_neg (List.cons_ne_nil index path)]

theorem at?_of_contextAt? {context inner : TaxonomyContext} {path : List Nat} (level : Nat)
    (found : contextAt? context path = some inner) :
    taxonomyContexts.at? level (.scope context) path = some (.scope inner) := by
  induction path generalizing level context with
  | nil =>
    cases found
    rfl
  | cons index path ih =>
    obtain ⟨next, entered, found⟩ := Option.bind_eq_some_iff.mp found
    rw [← scope_at (level + 1) context.1] at entered
    obtain ⟨member, held, scope⟩ := Option.bind_eq_some_iff.mp entered
    cases member with
    | filter filter => cases scope
    | scope context' =>
      cases scope
      rw [Contexts.at?]
      change ((members (level + 1) context.1 context.2)[index]?).bind _ = _
      rw [held]
      exact ih (level + 1) found

end TaxonomyCall

def TaxonomyInput.clauseAt? (input : TaxonomyInput) (place : List Nat) : Option TaxonomyClause :=
  (input.build.nodes.head?.bind fun tree => tree.at? place).bind Node.clause?

namespace TaxonomyInput
open TaxonomyCall

theorem clauseAt?_scope (default : Option String) (calls : List TaxonomyCall)
    (relation : Option String) (place : List Nat) :
    (scope default calls relation).clauseAt? place =
      ((taxonomyContexts.node topLevel (.scope (default, calls))).at? place).bind Node.clause? := by
  rw [clauseAt?, build_eq, nodes_eq]
  rfl

theorem node_at?_cons (level : Nat) (context : TaxonomyContext) (index : Nat) (path : List Nat) :
    (taxonomyContexts.node level (.scope context)).at? (index :: path) =
      (members (level + 1) context.1 context.2)[index]?.bind fun member =>
        (taxonomyContexts.node (level + 1) member).at? path := by
  rw [Node.at?, Contexts.children_node lawful_taxonomyContexts, List.getElem?_map]
  change ((members (level + 1) context.1 context.2)[index]?.map _).bind _ = _
  cases (members (level + 1) context.1 context.2)[index]? <;> rfl

theorem clause_of_call {default own : Option String} {calls before after : List TaxonomyCall}
    {path : List Nat} {call : TaxonomyCall} {filter : Placed TaxonomyFilter}
    (relation : Option String)
    (found : contextAt? (default, calls) path = some (own, before ++ call :: after))
    (made : member? (topLevel + path.length + 1) (selectedBehind own before) call =
      some (.filter filter)) :
    (scope default calls relation).clauseAt? (path ++ [before.countP adds]) =
      some (filter.filter.clause (filter.level.getD (topLevel + path.length + 1))) := by
  rw [clauseAt?_scope, Node.at?_append, Contexts.node_at? lawful_taxonomyContexts,
    at?_of_contextAt? topLevel found, Option.map_some, Option.bind_some, node_at?_cons,
    member_at _ _ _ made]
  rfl

-- Two steps or more into a tree lead through a context, and there all that was
-- selected outside is forgotten.
theorem at?_deeper (level : Nat) (context : TaxonomyContext) (index next : Nat) (rest : List Nat) :
    (taxonomyContexts.node level (.scope context)).at? (index :: next :: rest) =
      ((context.2.filter adds)[index]?.bind scope?).bind fun inner =>
        (taxonomyContexts.node (level + 1) (.scope inner)).at? (next :: rest) := by
  rw [node_at?_cons, ← scope_at (level + 1) context.1]
  cases (members (level + 1) context.1 context.2)[index]? with
  | none => rfl
  | some member => cases member <;> rfl

theorem clause_of_entry (level : Nat) (context : TaxonomyContext) (index : Nat) :
    ((taxonomyContexts.node level (.scope context)).at? [index]).bind Node.clause? =
      ((members (level + 1) context.1 context.2).map fun member =>
        (taxonomyContexts.node (level + 1) member).clause?)[index]?.join := by
  rw [node_at?_cons, List.getElem?_map]
  cases (members (level + 1) context.1 context.2)[index]? <;> rfl

theorem clause_of_reselected {path : List Nat} {calls calls' : List TaxonomyCall}
    (changed : Reselected path calls calls') (level : Nat) (own : Option String)
    {place : List Nat} (away : ∀ index, place ≠ path ++ [index]) :
    ((taxonomyContexts.node level (.scope (own, calls'))).at? place).bind Node.clause? =
      ((taxonomyContexts.node level (.scope (own, calls))).at? place).bind Node.clause? := by
  induction changed generalizing level own place with
  | @here calls calls' same =>
    match place with
    | [] => rfl
    | [index] => exact absurd rfl (away index)
    | index :: next :: rest =>
      rw [at?_deeper, at?_deeper, ← adds_unselected calls, ← adds_unselected calls', same]
  | @deeper path inner inner' before after within ih =>
    match place with
    | [] => rfl
    | [index] =>
      -- The entry itself is a context before and after, so no clause either way.
      rw [clause_of_entry, clause_of_entry, members_append, members_append, List.map_append,
        List.map_append]
      rfl
    | index :: next :: rest =>
      rw [at?_deeper, at?_deeper]
      by_cases here : index = before.countP adds
      · subst here
        rw [entry_at before after rfl, entry_at before after rfl]
        refine ih (level + 1) none ?_
        intro last same
        exact away last (congrArg (before.countP adds :: ·) same)
      · rw [entry_elsewhere before after (.nest inner') (.nest inner) rfl rfl here]

-- In every context of a tree, terms are matched in the taxonomy that the context
-- selected last before them, else in the one it was created with; only the
-- outermost context can have been created with one. Filters keep their own. So a
-- selection reaches the entries of its own context and no other clause, be it
-- around that context, beside it or inside it.
theorem selections_scoped (default : Option String) (calls : List TaxonomyCall)
    (relation : Option String) :
    (∀ path own calls', contextAt? (default, calls) path = some (own, calls') →
      own = (if path = [] then default else none) ∧
      (∀ before field terms after, calls' = before ++ .matching field terms :: after →
        (scope default calls relation).clauseAt? (path ++ [before.countP adds]) =
          some ⟨(selectedBehind own before).getD "",
            (Vocabulary.taxonomyField? field).getD "term_id", "IN", terms, true,
            topLevel + path.length + 1⟩) ∧
      ∀ before call after filter, calls' = before ++ call :: after →
        call.written? (topLevel + path.length + 1) = some filter →
        ((scope default calls relation).clauseAt? (path ++ [before.countP adds])).map
          TaxonomyClause.taxonomy = some filter.filter.taxonomy) ∧
    ∀ path calls', Reselected path calls calls' →
      ∀ place, (∀ index, place ≠ path ++ [index]) →
        (scope default calls' relation).clauseAt? place =
          (scope default calls relation).clauseAt? place := by
  refine ⟨?_, ?_⟩
  · intro path own calls' found
    refine ⟨own_of_contextAt? found, ?_, ?_⟩
    · rintro before field terms after rfl
      rw [clause_of_call relation found rfl]
      rfl
    · rintro before call after filter rfl written
      have made : member? (topLevel + path.length + 1) (selectedBehind own before) call =
          some (.filter filter) := by
        cases call <;> cases written <;> rfl
      rw [clause_of_call relation found made]
      rfl
  · intro path calls' changed place away
    rw [clauseAt?_scope, clauseAt?_scope]
    exact clause_of_reselected changed topLevel default away

def genreScope (sized : List TaxonomyCall) : List TaxonomyCall :=
  [.slug (.str "rock"), .nest (.slug (.str "red") :: sized), .id (Json.int 3),
    .add { filter := { taxonomy := "label", operator := some (Json.int 7) } }]

theorem genre_kept_around_sizes :
    let found place :=
      ((scope (some "genre") (genreScope [.select "size", .name (.str "M")]) none).clauseAt?
        place).map TaxonomyClause.taxonomy
    found [0] = some "genre" ∧ found [1, 0] = some "" ∧ found [1, 1] = some "size" ∧
      found [2] = some "genre" ∧ found [3] = some "label" ∧
      ((scope (some "genre") (genreScope [.name (.str "M")]) none).clauseAt? [2]).map
        TaxonomyClause.taxonomy = some "genre" := by
  intro found
  obtain ⟨entries, elsewhere⟩ := selections_scoped (some "genre")
    (genreScope [.select "size", .name (.str "M")]) none
  have outer := (entries [] _ _ rfl).2
  have inner := (entries [1] _ _ rfl).2
  have genre : found [2] = some "genre" :=
    congrArg (Option.map TaxonomyClause.taxonomy) (outer.1 [_, _] _ _ [_] rfl)
  refine ⟨?_, ?_, ?_, genre, ?_, ?_⟩
  · exact congrArg (Option.map TaxonomyClause.taxonomy) (outer.1 [] _ _ [_, _, _] rfl)
  · exact congrArg (Option.map TaxonomyClause.taxonomy) (inner.1 [] _ _ [_, _] rfl)
  · exact congrArg (Option.map TaxonomyClause.taxonomy) (inner.1 [_, _] _ _ [] rfl)
  · exact outer.2 [_, _, _] _ [] _ rfl rfl
  · have unsized : Reselected [1] (genreScope [.select "size", .name (.str "M")])
        (genreScope [.name (.str "M")]) := .deeper [.slug (.str "rock")] _ (.here rfl)
    rw [elsewhere [1] _ unsized [2] (by simp)]
    exact genre

end TaxonomyInput
end ContentQuery
