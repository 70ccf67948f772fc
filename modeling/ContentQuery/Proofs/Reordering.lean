import ContentQuery.Proofs.Leftovers

namespace ContentQuery
namespace OrderedMap
variable {α : Type}

theorem mem_entries_iff {m : OrderedMap α} (distinct : m.keys.Nodup) {name : String} {value : α} :
    (name, value) ∈ m.entries ↔ m.get? name = some value := by
  constructor
  · exact lookup_of_mem distinct
  · intro held
    obtain ⟨before, split⟩ := exists_slot held
    rw [split]
    exact List.mem_append_right _ List.mem_cons_self

theorem nodup_entries {entries : List (String × α)} (distinct : (entries.map Prod.fst).Nodup) :
    entries.Nodup :=
  List.Pairwise.of_map Prod.fst (fun _ _ apart same => apart (congrArg Prod.fst same)) distinct

theorem perm_of_get?_eq {m other : OrderedMap α} (distinct : m.keys.Nodup)
    (distinctOther : other.keys.Nodup) (same : ∀ name, m.get? name = other.get? name) :
    m.entries.Perm other.entries := by
  apply (List.perm_ext_iff_of_nodup (nodup_entries distinct) (nodup_entries distinctOther)).mpr
  intro entry
  obtain ⟨name, value⟩ := entry
  rw [mem_entries_iff distinct, mem_entries_iff distinctOther, same]

structure Alike (m other : OrderedMap α) : Prop where
  held : ∀ name, m.get? name = other.get? name
  entries : m.entries.Perm other.entries

theorem eq_of_lookup_eq {entries others : List (String × α)}
    (distinct : (entries.map Prod.fst).Nodup) (names : entries.map Prod.fst = others.map Prod.fst)
    (same : ∀ name ∈ entries.map Prod.fst, entries.lookup name = others.lookup name) :
    entries = others := by
  induction entries generalizing others with
  | nil => exact (List.map_eq_nil_iff.mp names.symm).symm
  | cons entry rest ih =>
    obtain ⟨key, value⟩ := entry
    obtain ⟨⟨other, held⟩, others, rfl, named, behind⟩ := List.map_eq_cons_iff.mp names.symm
    obtain ⟨fresh, distinctRest⟩ := List.nodup_cons.mp distinct
    have keys : key = other := named.symm
    subst keys
    have values : value = held := by
      simpa using same key List.mem_cons_self
    subst values
    congr 1
    apply ih distinctRest behind.symm
    intro name member
    have apart : name ≠ key := fun here => fresh (here ▸ member)
    have looked := same name (List.mem_cons_of_mem _ member)
    rwa [lookup_cons_of_ne apart, lookup_cons_of_ne apart] at looked

end OrderedMap

namespace Compilation

theorem nodup_keys_insertClauses {arguments : Arguments} (distinct : arguments.keys.Nodup)
    (clauses : List PlainClause) :
    (clauses.foldl (fun arguments clause => arguments.insertValue clause.column clause.value)
      arguments).keys.Nodup :=
  List.foldlRecOn (motive := fun held : Arguments => held.keys.Nodup) clauses _ distinct
    fun _ kept clause _ => OrderedMap.nodup_keys_alter kept clause.column _

theorem nodup_keys_addRelations {arguments : Arguments} (distinct : arguments.keys.Nodup)
    (name : String) (levels : LevelRelations) :
    (addRelations arguments name levels).keys.Nodup := by
  unfold addRelations
  cases levels.lowest with
  | none => exact distinct
  | some relation => exact OrderedMap.nodup_keys_alter distinct name _

theorem nodup_keys_addBinding {arguments : Arguments} (distinct : arguments.keys.Nodup)
    (name : String) (binding : Binding) : (addBinding arguments name binding).keys.Nodup := by
  unfold addBinding
  split
  · exact distinct
  · split
    · cases binding with
      | plain clauses =>
        simp only [addCompiled]
        split
        · exact nodup_keys_insertClauses distinct clauses
        · exact distinct
      | relations levels =>
        simp only [addCompiled]
        split
        · exact nodup_keys_addRelations distinct _ levels
        · split
          · exact nodup_keys_addRelations distinct _ levels
          · exact distinct
      | value _ | metas _ | taxonomies _ =>
        simp only [addCompiled]
        split
        · exact OrderedMap.nodup_keys_alter distinct _ _
        · exact distinct
    · split
      · cases binding with
        | value value => exact OrderedMap.nodup_keys_alter distinct name _
        | plain _ | metas _ | taxonomies _ | relations _ => exact distinct
      · exact distinct

theorem nodup_keys_addDefault (lookup : Lookup) {arguments : Arguments}
    (distinct : arguments.keys.Nodup) (name : String) :
    (addDefault lookup arguments name).keys.Nodup := by
  unfold addDefault
  cases lookup name with
  | none => exact distinct
  | some value => exact OrderedMap.nodup_keys_alter distinct name _

theorem nodup_keys_compile (lookup : Lookup) (bindings : Bindings) :
    (compile lookup bindings).keys.Nodup := by
  have defaulted : (defaults lookup).keys.Nodup :=
    List.foldlRecOn (motive := fun held : Arguments => held.keys.Nodup) Vocabulary.arguments _
      List.nodup_nil fun _ kept name _ => nodup_keys_addDefault lookup kept name
  have started := OrderedMap.nodup_keys_alter defaulted Vocabulary.postType
    fun _ => .value (postType bindings)
  exact List.foldlRecOn (motive := fun held : Arguments => held.keys.Nodup) bindings.entries _
    started fun _ kept entry _ => nodup_keys_addBinding kept entry.1 entry.2

theorem update_of_untargeted {name argument : String} (offPlain : name ≠ Vocabulary.plainClauses)
    (untargeted : target? name ≠ some argument) (binding : Binding) (held : Option Argument) :
    update argument name binding held = held := by
  cases binding with
  | plain clauses => simp [update, offPlain]
  | value value =>
    by_cases limits : name = Vocabulary.limit
    · subst limits
      have away : argument ≠ Vocabulary.pageSize := fun same =>
        untargeted (target?_of_compiled.2.1.trans (congrArg some same.symm))
      simp [update, away]
    · by_cases known : Vocabulary.isArgument name = true
      · rw [target?_of_known known] at untargeted
        by_cases reserved : name = Vocabulary.postType
        · subst reserved
          simp [update, limits]
        · have away : argument ≠ name := by simpa [reserved, eq_comm] using untargeted
          simp [update, limits, away]
      · simp [update, limits, known]
  | metas nodes =>
    simp only [update]
    split
    · rename_i own
      obtain ⟨rfl, rfl⟩ := own
      exact absurd target?_of_compiled.2.2.1 untargeted
    · rfl
  | taxonomies nodes =>
    simp only [update]
    split
    · rename_i own
      obtain ⟨rfl, rfl⟩ := own
      exact absurd target?_of_compiled.2.2.2.2.1 untargeted
    · rfl
  | relations levels =>
    simp only [update]
    split
    · rename_i own
      rcases own with ⟨rfl, rfl⟩ | ⟨rfl, rfl⟩
      · exact absurd target?_of_compiled.2.2.2.1 untargeted
      · exact absurd target?_of_compiled.2.2.2.2.2 untargeted
    · rfl

theorem target?_cases {name argument : String} (targets : target? name = some argument) :
    name = Vocabulary.limit ∧ argument = Vocabulary.pageSize ∨
      (∃ compound : Compound, argument = compound.argument ∧
        (name = compound.clauseName ∨ name = compound.relationName)) ∨
      Vocabulary.isArgument argument = true ∧ name = argument := by
  unfold target? at targets
  split at targets
  · rename_i limits
    exact .inl ⟨limits, (Option.some.inj targets).symm⟩
  · split at targets
    · rename_i named
      exact .inr (.inl ⟨.metas, (Option.some.inj targets).symm, named⟩)
    · split at targets
      · rename_i named
        exact .inr (.inl ⟨.taxonomies, (Option.some.inj targets).symm, named⟩)
      · split at targets
        · rename_i known
          cases targets
          exact .inr (.inr ⟨known.1, rfl⟩)
        · cases targets

-- Two names that write one argument hold the clauses and the relations of one
-- compound. The page size, which is the limit's as well, is left out.
theorem compound_of_shared_target {name other argument : String} (apart : name ≠ other)
    (unpaged : name ≠ Vocabulary.pageSize) (otherUnpaged : other ≠ Vocabulary.pageSize)
    (targets : target? name = some argument) (otherTargets : target? other = some argument) :
    ∃ compound : Compound, argument = compound.argument ∧
      (name = compound.clauseName ∧ other = compound.relationName ∨
        name = compound.relationName ∧ other = compound.clauseName) := by
  have unsized : ∀ compound : Compound, Vocabulary.pageSize ≠ compound.argument := by
    intro compound
    cases compound <;> decide
  have unknown : ∀ compound : Compound, ¬ Vocabulary.isArgument compound.argument = true := by
    intro compound
    cases compound <;> decide
  have single : ∀ compound kind : Compound,
      compound.argument = kind.argument → compound = kind := by
    intro compound kind same
    cases compound <;> cases kind <;> first | rfl | exact absurd same (by decide)
  rcases target?_cases targets with ⟨rfl, rfl⟩ | ⟨compound, rfl, named⟩ | ⟨known, rfl⟩
  · rcases target?_cases otherTargets with ⟨rfl, _⟩ | ⟨compound, same, _⟩ | ⟨_, rfl⟩
    · exact absurd rfl apart
    · exact absurd same (unsized compound)
    · exact absurd rfl otherUnpaged
  · rcases target?_cases otherTargets with ⟨_, same⟩ | ⟨kind, same, others⟩ | ⟨known, _⟩
    · exact absurd same.symm (unsized compound)
    · cases single compound kind same
      refine ⟨compound, rfl, ?_⟩
      rcases named with rfl | rfl <;> rcases others with rfl | rfl
      · exact absurd rfl apart
      · exact .inl ⟨rfl, rfl⟩
      · exact .inr ⟨rfl, rfl⟩
      · exact absurd rfl apart
    · exact absurd known (unknown compound)
  · rcases target?_cases otherTargets with ⟨_, rfl⟩ | ⟨compound, rfl, _⟩ | ⟨_, rfl⟩
    · exact absurd rfl unpaged
    · exact absurd known (unknown compound)
    · exact absurd rfl apart

theorem update_clauses_relations (compound : Compound) (clauses levels : Binding)
    (held : Option Argument) :
    update compound.argument compound.relationName levels
        (update compound.argument compound.clauseName clauses held) =
      update compound.argument compound.clauseName clauses
        (update compound.argument compound.relationName levels held) := by
  simp only [Compound.update_clauses, Compound.update_relations]
  calc (((levels.relations?).bind LevelRelations.lowest).map (related _)).or _
      = Compound.merged _ none ((levels.relations?).bind LevelRelations.lowest) :=
        Compound.merged_related _ none _
    _ = Compound.merged held (compound.gathered? clauses)
          ((levels.relations?).bind LevelRelations.lowest) := Compound.merged_grown held _ _
    _ = Compound.merged _ (compound.gathered? clauses) none :=
        (Compound.merged_related held _ _).symm
    _ = ((compound.gathered? clauses).map (grown _)).or _ :=
        (Compound.merged_grown _ _ none).symm

theorem update_comm {name other : String} (apart : name ≠ other)
    (free : name ≠ Vocabulary.plainClauses ∧ name ≠ Vocabulary.pageSize)
    (otherFree : other ≠ Vocabulary.plainClauses ∧ other ≠ Vocabulary.pageSize)
    (argument : String) (binding added : Binding) (held : Option Argument) :
    update argument other added (update argument name binding held) =
      update argument name binding (update argument other added held) := by
  by_cases targets : target? name = some argument
  · by_cases otherTargets : target? other = some argument
    · obtain ⟨compound, rfl, named⟩ :=
        compound_of_shared_target apart free.2 otherFree.2 targets otherTargets
      rcases named with ⟨rfl, rfl⟩ | ⟨rfl, rfl⟩
      · exact update_clauses_relations compound binding added held
      · exact (update_clauses_relations compound added binding held).symm
    · rw [update_of_untargeted otherFree.1 otherTargets,
        update_of_untargeted otherFree.1 otherTargets]
  · rw [update_of_untargeted free.1 targets, update_of_untargeted free.1 targets]

theorem foldl_update_perm {entries others : List (String × Binding)} (perm : entries.Perm others)
    (distinct : (entries.map Prod.fst).Nodup)
    (free : ∀ entry ∈ entries, entry.1 ≠ Vocabulary.plainClauses ∧ entry.1 ≠ Vocabulary.pageSize)
    (argument : String) (held : Option Argument) :
    entries.foldl (fun held entry => update argument entry.1 entry.2 held) held =
      others.foldl (fun held entry => update argument entry.1 entry.2 held) held := by
  apply perm.foldl_eq'
  intro entry member other among held
  by_cases same : entry.1 = other.1
  · have bound := OrderedMap.lookup_of_mem distinct member
    rw [same, OrderedMap.lookup_of_mem distinct among, Option.some.injEq] at bound
    rw [same, bound]
  · exact update_comm same (free entry member) (free other among) argument _ _ held

end Compilation

namespace Bindings
open Compilation

-- Names that had a slot keep it and the new ones line up behind them. So writes
-- that keep their order name by name can only exchange the new slots.
theorem exists_rearrangement {bindings : Bindings} (distinct : bindings.keys.Nodup)
    {writes others : List Write}
    (same : ∀ name, (writes.filter fun written => written.name == name) =
      others.filter fun written => written.name == name) :
    ∃ front back moved, (bindings.writeAll writes).entries = front ++ back ∧
      (bindings.writeAll others).entries = front ++ moved ∧ back.Perm moved ∧
      ∀ entry ∈ back, ∃ written ∈ writes, written.name = entry.1 := by
  have alike : ∀ name,
      (bindings.writeAll writes).get? name = (bindings.writeAll others).get? name := by
    intro name
    rw [get?_writeAll, get?_writeAll, same]
  have keysDistinct := nodup_keys_writeAll distinct writes
  have perm := OrderedMap.perm_of_get?_eq keysDistinct (nodup_keys_writeAll distinct others) alike
  obtain ⟨_, split⟩ := keys_prefix bindings writes
  obtain ⟨_, splitOthers⟩ := keys_prefix bindings others
  obtain ⟨front, back, entries, names, _⟩ := List.map_eq_append_iff.mp split.symm
  obtain ⟨ahead, moved, entriesOthers, namesOthers, _⟩ := List.map_eq_append_iff.mp splitOthers.symm
  rw [OrderedMap.keys, entries, List.map_append, List.nodup_append] at keysDistinct
  obtain ⟨frontDistinct, _, apart⟩ := keysDistinct
  have fronts : front = ahead := by
    apply OrderedMap.eq_of_lookup_eq frontDistinct (names.trans namesOthers.symm)
    intro name member
    obtain ⟨binding, held⟩ := Option.ne_none_iff_exists'.mp fun absent =>
      OrderedMap.lookup_eq_none_iff_not_mem.mp absent member
    obtain ⟨binding', held'⟩ := Option.ne_none_iff_exists'.mp fun absent =>
      OrderedMap.lookup_eq_none_iff_not_mem.mp absent (names.trans namesOthers.symm ▸ member)
    have looked := alike name
    rw [OrderedMap.get?, OrderedMap.get?, entries, entriesOthers, List.lookup_append,
      List.lookup_append, held, held'] at looked
    rw [held, held']
    exact looked
  subst fronts
  refine ⟨front, back, moved, entries, entriesOthers, ?_, ?_⟩
  · rwa [entries, entriesOthers, List.perm_append_left_iff] at perm
  · intro entry member
    have key : entry.1 ∈ (bindings.writeAll writes).keys := by
      rw [OrderedMap.keys, entries, List.map_append]
      exact List.mem_append_right _ (List.mem_map_of_mem member)
    apply (mem_keys_writeAll.mp key).resolve_left
    intro old
    exact apart entry.1 (names ▸ old) entry.1 (List.mem_map_of_mem member) rfl

theorem get?_compile_of_reordered {bindings : Bindings} (distinct : bindings.keys.Nodup)
    {writes others : List Write}
    (same : ∀ name, (writes.filter fun written => written.name == name) =
      others.filter fun written => written.name == name)
    (free : ∀ written ∈ writes,
      written.name ≠ Vocabulary.plainClauses ∧ written.name ≠ Vocabulary.pageSize)
    (lookup : Lookup) (argument : String) :
    (compile lookup (bindings.writeAll writes)).get? argument =
      (compile lookup (bindings.writeAll others)).get? argument := by
  have started : start lookup (bindings.writeAll writes) argument =
      start lookup (bindings.writeAll others) argument := by
    have typed : postType (bindings.writeAll writes) = postType (bindings.writeAll others) := by
      rw [postType, postType, get?_writeAll, get?_writeAll, same]
    rw [start, start, typed]
  have keysDistinct := nodup_keys_writeAll distinct writes
  obtain ⟨front, back, moved, entries, entriesOthers, perm, written⟩ :=
    exists_rearrangement distinct same
  rw [OrderedMap.keys, entries, List.map_append, List.nodup_append] at keysDistinct
  rw [get?_compile, get?_compile, started, entries, entriesOthers, List.foldl_append,
    List.foldl_append]
  apply foldl_update_perm perm keysDistinct.2.1
  intro entry member
  obtain ⟨one, among, name⟩ := written entry member
  exact name ▸ free one among

end Bindings

namespace Call

def binds (name : String) (call : Call) : Bool :=
  call.writes.any fun written => written.name == name

structure Reordered (calls others : List Call) : Prop where
  perm : calls.Perm others
  ordered : ∀ name, calls.filter (binds name) = others.filter (binds name)

def Gathers : Call → Prop
  | .plain _ | .plains _ => False
  | .configure _ | .configureWith _ | .withStore _ | .formatWith _ => False
  | _ => True

theorem unplain_of_gathers {call : Call} (gathers : call.Gathers) :
    (Step.call call).clauses? = none := by
  cases call <;> first | rfl | cases gathers

theorem silent_of_gathers {call : Call} (gathers : call.Gathers) :
    (∀ provider, call.configured provider = provider) ∧ call.store? = none ∧
      call.formatter? = none := by
  cases call with
  | plain _ | plains _ | configure _ | configureWith _ | withStore _ | formatWith _ => cases gathers
  | _ => exact ⟨fun _ => rfl, rfl, rfl⟩

theorem filter_writes (calls : List Call) (name : String) :
    ((calls.flatMap writes).filter fun written => written.name == name) =
      (calls.filter (binds name)).flatMap fun call =>
        call.writes.filter fun written => written.name == name := by
  induction calls with
  | nil => rfl
  | cons call rest ih =>
    rw [List.flatMap_cons, List.filter_append, ih]
    cases bound : call.binds name with
    | true => simp [bound]
    | false =>
      have silent : (call.writes.filter fun written => written.name == name) = [] := by
        rw [List.filter_eq_nil_iff]
        intro written member
        exact List.any_eq_false.mp bound written member
      simp [bound, silent]

theorem Reordered.writes {calls others : List Call} (reordered : Reordered calls others)
    (name : String) :
    ((calls.flatMap Call.writes).filter fun written => written.name == name) =
      (others.flatMap Call.writes).filter fun written => written.name == name := by
  rw [filter_writes, filter_writes, reordered.ordered]

theorem Reordered.trans {calls middle others : List Call} (first : Reordered calls middle)
    (second : Reordered middle others) : Reordered calls others :=
  ⟨first.perm.trans second.perm, fun name => (first.ordered name).trans (second.ordered name)⟩

theorem Reordered.swap (before after : List Call) {first second : Call}
    (apart : ∀ written ∈ first.writes, ∀ other ∈ second.writes, written.name ≠ other.name) :
    Reordered (before ++ first :: second :: after) (before ++ second :: first :: after) := by
  refine ⟨(List.Perm.swap second first after).append_left before, ?_⟩
  intro name
  rw [List.filter_append, List.filter_append]
  congr 1
  cases bound : first.binds name with
  | false => simp [List.filter_cons, bound]
  | true =>
    have free : second.binds name = false := by
      obtain ⟨written, member, same⟩ := List.any_eq_true.mp bound
      rw [binds, List.any_eq_false]
      intro other among shared
      exact apart written member other among
        ((beq_iff_eq.mp same).trans (beq_iff_eq.mp shared).symm)
    simp [bound, free]

theorem binds_eq_true_iff {name : String} {call : Call} :
    call.binds name = true ↔ ∃ written ∈ call.writes, written.name = name := by
  simp [binds]

theorem Reordered.of_perm {calls others : List Call} (perm : calls.Perm others)
    (distinct : ((others.flatMap Call.writes).map Write.name).Nodup) : Reordered calls others := by
  rw [List.map_flatMap, List.Nodup, List.pairwise_flatMap] at distinct
  refine ⟨perm, fun name => ?_⟩
  have kept := perm.filter (binds name)
  cases found : others.filter (binds name) with
  | nil =>
    rw [found] at kept
    exact kept.eq_nil
  | cons first more =>
    have binding : ∀ call ∈ first :: more, name ∈ call.writes.map Write.name := by
      intro call member
      rw [← found, List.mem_filter, binds_eq_true_iff] at member
      exact List.mem_map.mpr member.2
    cases more with
    | nil =>
      rw [found] at kept
      exact kept.eq_singleton
    | cons second more =>
      have apart := List.rel_of_pairwise_cons (found ▸ distinct.2.filter (binds name))
        List.mem_cons_self
      exact absurd rfl (apart name (binding first List.mem_cons_self) name
        (binding second (List.mem_cons_of_mem _ List.mem_cons_self)))

end Call

namespace Session

theorem run_of_gathers {session done : Session} {calls : List Call}
    (gathering : ∀ call ∈ calls, call.Gathers) (ran : session.run (calls.map .call) = .ok done) :
    done = { session with query := { session.query with bindings := done.query.bindings } } := by
  have silent := fun call member => Call.silent_of_gathers (gathering call member)
  rw [run_calls_eq ran, Call.foldl_configured fun call member => (silent call member).1,
    Call.lastOr_of_silent fun call member => (silent call member).2.1,
    Call.lastOr_of_silent fun call member => (silent call member).2.2]

-- At any point of a run calls that bind no name in common may change places, as
-- long as plain calls and terminals stay where they are. Under every configuration
-- the arguments are the same; at most they are compiled in another order.
theorem independent_calls_commute (shared : Settings) {steps : List Step} {session done : Session}
    (reached : Session.run ⟨shared, .fresh⟩ steps = .ok session) {calls others : List Call}
    (gathering : ∀ call ∈ calls, call.Gathers) (reordered : Call.Reordered calls others)
    (ran : session.run (calls.map .call) = .ok done) :
    ∃ other, session.run (others.map .call) = .ok other ∧
      (∀ lookup, (compile lookup done.query.bindings).Alike (compile lookup other.query.bindings)) ∧
      done.arguments.Alike other.arguments := by
  have accepted : ∀ step ∈ others.map Step.call, step.Accepted := by
    intro step member
    apply run_ok_iff.mp ⟨done, ran⟩
    exact (reordered.perm.map Step.call).mem_iff.mpr member
  obtain ⟨other, ranOther⟩ := (@run_ok_iff session (others.map .call)).mpr accepted
  have gathered : session.query.bindings = Step.gather steps := run_bindings reached
  have distinct : session.query.bindings.keys.Nodup := gathered ▸ Step.nodup_keys_gather steps
  have free : ∀ written ∈ calls.flatMap Call.writes,
      written.name ≠ Vocabulary.plainClauses ∧ written.name ≠ Vocabulary.pageSize := by
    intro written member
    obtain ⟨call, made, member⟩ := List.mem_flatMap.mp member
    have unplain := Call.unplain_of_gathers (gathering call made)
    exact ⟨Step.unwritten_of_unplain unplain written member,
      (call.writes_unforced written member).2⟩
  have alike : ∀ lookup,
      (compile lookup done.query.bindings).Alike (compile lookup other.query.bindings) := by
    intro lookup
    have held := Bindings.get?_compile_of_reordered distinct reordered.writes free lookup
    rw [run_bindings ran, run_bindings ranOther, List.flatMap_map, List.flatMap_map]
    exact ⟨held, OrderedMap.perm_of_get?_eq (Compilation.nodup_keys_compile lookup _)
      (Compilation.nodup_keys_compile lookup _) held⟩
  have gatheringOthers : ∀ call ∈ others, call.Gathers := fun call member =>
    gathering call (reordered.perm.mem_iff.mpr member)
  have settings :
      other.query.provider.lookup other.shared = done.query.provider.lookup done.shared := by
    rw [run_of_gathers gathering ran, run_of_gathers gatheringOthers ranOther]
  refine ⟨other, ranOther, alike, ?_⟩
  rw [Session.arguments, Query.arguments, Session.arguments, Query.arguments, settings]
  exact alike _

def sized : Call :=
  .orMeta { filter := { column := "size", operator := some (.str "M") }, level := some 2 }

def genres : Call :=
  .taxonomies (.scope (some "genre") [.matching "slug" (.str "jazz"), .relate "or"] (some "and"))

def coloured : Call :=
  .metas (.several [
    .scope [.addOr { filter := { column := "color", operator := some (.str "red") } }] none,
    .single {
      filter := { column := "price", operator := some (.str ">"), value := some (Json.int 5) }
      relation := some "and" }])

theorem genres_and_sizes_commute :
    ∃ done other,
      Session.run ⟨.initial, .fresh⟩ ([sized, .limit 5, genres, coloured].map .call) = .ok done ∧
      Session.run ⟨.initial, .fresh⟩ ([genres, sized, coloured, .limit 5].map .call) = .ok other ∧
      done.arguments.Alike other.arguments ∧ done.arguments.keys ≠ other.arguments.keys := by
  have gathering : ∀ call ∈ [sized, .limit 5, genres, coloured], call.Gathers := by
    simp [sized, genres, coloured, Call.orMeta, Call.Gathers]
  have reordered : Call.Reordered [sized, .limit 5, genres, coloured]
      [genres, sized, coloured, .limit 5] :=
    ((Call.Reordered.swap [sized] [coloured] (by decide)).trans
      (Call.Reordered.swap [] [.limit 5, coloured] (by decide))).trans
      (Call.Reordered.swap [genres, sized] [] (by decide))
  obtain ⟨other, ran, _, alike⟩ := @independent_calls_commute .initial [] _ _ rfl _ _ gathering
    reordered rfl
  cases ran
  exact ⟨_, _, rfl, rfl, alike, by decide⟩

end Session
end ContentQuery
