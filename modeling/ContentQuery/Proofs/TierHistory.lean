import ContentQuery.Proofs.Insertions
import ContentQuery.Settings

namespace ContentQuery
namespace TierCall

def shared : TierCall → List (String × Json)
  | .set name value => [(name, value)]
  | .setMany settings => settings.entries
  | .load path text =>
    match Settings.ofFile path text with
    | .ok settings => settings.entries
    | .error _ => []
  | .reset | .new | .clone _ | .add _ _ _ | .addMany _ _ => []

def added (index : Nat) : TierCall → List (String × Json)
  | .add target name value => if target = index then [(name, value)] else []
  | .addMany target settings => if target = index then settings.entries else []
  | .set _ _ | .setMany _ | .reset | .load _ _ | .new | .clone _ => []

def target? : TierCall → Option Nat
  | .add target _ _ | .addMany target _ => some target
  | .set _ _ | .setMany _ | .reset | .load _ _ | .new | .clone _ => none

def source? : TierCall → Option Nat
  | .clone source => some source
  | .set _ _ | .setMany _ | .reset | .load _ _ | .new | .add _ _ _ | .addMany _ _ => none

-- A history lists the calls of a run from the latest to the earliest.
def configurators : List TierCall → Nat
  | [] => 1
  | .new :: earlier | .clone _ :: earlier => configurators earlier + 1
  | _ :: earlier => configurators earlier

-- All that was written to a configurator's own tier, the latest first. One that
-- the latest call makes has what it is cloned from, if it is cloned.
def ownWrites : List TierCall → Nat → List (String × Json)
  | [], _ => []
  | call :: earlier, index =>
    if index < configurators earlier then (call.added index).reverse ++ ownWrites earlier index
    else
      match call.source? with
      | some source => if index = configurators earlier then ownWrites earlier source else []
      | none => []

def sharedWrites : List TierCall → List (String × Json)
  | [] | .reset :: _ => Settings.initial.entries.reverse
  | call :: earlier => call.shared.reverse ++ sharedWrites earlier

end TierCall

namespace Tiers

def advance (tiers : Tiers) (call : TierCall) : Tiers :=
  match tiers.step call with
  | .ok next => next
  | .error _ => tiers

theorem run_cons (tiers : Tiers) (call : TierCall) (rest : List TierCall) :
    tiers.run (call :: rest) = (tiers.advance call).run rest := rfl

theorem own_of_unmade {tiers : Tiers} {index : Nat} (unmade : tiers.locals.length ≤ index) :
    tiers.own index = .empty := by
  rw [own, List.getElem?_eq_none unmade]
  rfl

theorem own_modify (tiers : Tiers) (target index : Nat) (change : Settings → Settings) :
    own { tiers with locals := tiers.locals.modify target change } index =
      if target = index ∧ index < tiers.locals.length then change (tiers.own index)
      else tiers.own index := by
  unfold own
  rw [List.getElem?_modify]
  by_cases made : index < tiers.locals.length
  · rw [List.getElem?_eq_getElem made]
    by_cases same : target = index <;> simp [same, made]
  · rw [List.getElem?_eq_none (Nat.not_lt.mp made)]
    simp [made]

theorem own_modify_insertMany {tiers : Tiers} {index : Nat} (made : index < tiers.locals.length)
    (target : Nat) (more : List (String × Json)) :
    own { tiers with locals := tiers.locals.modify target fun own => own.insertMany more } index =
      (tiers.own index).insertMany (if target = index then more else []) := by
  rw [own_modify]
  by_cases same : target = index
  · rw [if_pos ⟨same, made⟩, if_pos same]
  · rw [if_neg fun given => same given.1, if_neg same]
    rfl

theorem own_push (tiers : Tiers) (made : Settings) (index : Nat) :
    own { tiers with locals := tiers.locals ++ [made] } index =
      if index = tiers.locals.length then made else tiers.own index := by
  unfold own
  rcases Nat.lt_trichotomy index tiers.locals.length with old | same | beyond
  · rw [List.getElem?_append_left old, if_neg (Nat.ne_of_lt old)]
  · subst same
    simp
  · rw [List.getElem?_append_right (Nat.le_of_lt beyond), if_neg (Nat.ne_of_gt beyond),
      List.getElem?_eq_none (Nat.le_of_lt beyond), List.getElem?_eq_none]
    exact Nat.succ_le_of_lt (Nat.sub_pos_of_lt beyond)

theorem advance_load (tiers : Tiers) (path : String) (text : Settings.FileText) :
    tiers.advance (.load path text) =
      { tiers with shared := tiers.shared.insertMany (TierCall.load path text).shared } := by
  simp only [advance, step, TierCall.shared]
  cases Settings.ofFile path text <;> rfl

theorem shared_advance (tiers : Tiers) (call : TierCall) :
    (tiers.advance call).shared =
      match call with
      | .reset => .initial
      | _ => tiers.shared.insertMany call.shared := by
  cases call with
  | load path text => rw [advance_load]
  | set _ _ | setMany _ | reset | new | clone _ | add _ _ _ | addMany _ _ => rfl

theorem length_advance (tiers : Tiers) (call : TierCall) :
    (tiers.advance call).locals.length =
      match call with
      | .new | .clone _ => tiers.locals.length + 1
      | _ => tiers.locals.length := by
  cases call with
  | load path text => rw [advance_load]
  | new | clone _ => exact List.length_append
  | add _ _ _ | addMany _ _ => exact List.length_modify ..
  | set _ _ | setMany _ | reset => rfl

theorem own_advance {tiers : Tiers} {index : Nat} (made : index < tiers.locals.length)
    (call : TierCall) :
    (tiers.advance call).own index = (tiers.own index).insertMany (call.added index) := by
  cases call with
  | add target name value => exact own_modify_insertMany made target [(name, value)]
  | addMany target settings => exact own_modify_insertMany made target settings.entries
  | new | clone _ =>
    change own { tiers with locals := _ } index = _
    rw [own_push, if_neg (Nat.ne_of_lt made)]
    rfl
  | load path text =>
    rw [advance_load]
    rfl
  | set _ _ | setMany _ | reset => rfl

theorem own_advance_of_unmade {tiers : Tiers} {index : Nat} (unmade : tiers.locals.length ≤ index)
    (call : TierCall) :
    (tiers.advance call).own index =
      match call.source? with
      | some source => if index = tiers.locals.length then tiers.own source else .empty
      | none => .empty := by
  have bare := own_of_unmade unmade
  cases call with
  | add target name value | addMany target settings =>
    change own { tiers with locals := _ } index = _
    rw [own_modify, if_neg fun given => Nat.not_lt.mpr unmade given.2, bare]
    rfl
  | new =>
    change own { tiers with locals := _ } index = _
    rw [own_push, bare]
    exact ite_self _
  | clone source =>
    change own { tiers with locals := _ } index = _
    rw [own_push, bare]
    rfl
  | load path text =>
    rw [advance_load]
    exact bare
  | set _ _ | setMany _ | reset => exact bare

theorem own_run {tiers : Tiers} {index : Nat} (made : index < tiers.locals.length)
    (later : List TierCall) :
    (tiers.run later).own index =
      (tiers.own index).insertMany (later.flatMap (TierCall.added index)) := by
  induction later generalizing tiers with
  | nil => rfl
  | cons call rest ih =>
    have kept : index < (tiers.advance call).locals.length := by
      rw [length_advance]
      split <;> omega
    rw [run_cons, ih kept, own_advance made, List.flatMap_cons, OrderedMap.insertMany_append]

-- What a run leaves, by its history.
structure Recounts (tiers : Tiers) (history : List TierCall) : Prop where
  length : tiers.locals.length = TierCall.configurators history
  own : ∀ index name, (tiers.own index).get? name = (TierCall.ownWrites history index).lookup name
  shared : ∀ name, tiers.shared.get? name = (TierCall.sharedWrites history).lookup name
  distinct : ∀ index, (tiers.own index).keys.Nodup

theorem recounts_start : start.Recounts [] where
  length := rfl
  own index name := by
    cases index <;> rfl
  shared name := (OrderedMap.lookup_reverse (by decide) name).symm
  distinct index := by
    cases index <;> exact List.nodup_nil

theorem recounts_advance {tiers : Tiers} {history : List TierCall}
    (recounts : tiers.Recounts history) (call : TierCall) :
    (tiers.advance call).Recounts (call :: history) := by
  have there : ∀ index, index < TierCall.configurators history ↔ index < tiers.locals.length := by
    intro index
    rw [recounts.length]
  constructor
  · rw [length_advance, recounts.length]
    cases call <;> rfl
  · intro index name
    by_cases made : index < tiers.locals.length
    · rw [own_advance made, OrderedMap.get?_insertMany, recounts.own, TierCall.ownWrites,
        if_pos ((there index).mpr made), List.lookup_append]
    · rw [own_advance_of_unmade (Nat.not_lt.mp made), TierCall.ownWrites,
        if_neg fun given => made ((there index).mp given), recounts.length]
      cases call.source? with
      | none => rfl
      | some source =>
        dsimp only
        by_cases last : index = TierCall.configurators history
        · rw [if_pos last, if_pos last, recounts.own]
        · rw [if_neg last, if_neg last]
          rfl
  · intro name
    rw [shared_advance]
    cases call with
    | reset =>
      exact (@OrderedMap.lookup_reverse Json Settings.initial.entries (by decide) name).symm
    | _ =>
      rw [OrderedMap.get?_insertMany, recounts.shared, ← List.lookup_append]
      rfl
  · intro index
    by_cases made : index < tiers.locals.length
    · rw [own_advance made]
      exact OrderedMap.nodup_keys_insertMany (recounts.distinct index) _
    · rw [own_advance_of_unmade (Nat.not_lt.mp made)]
      split
      · split
        · exact recounts.distinct _
        · exact List.nodup_nil
      · exact List.nodup_nil

theorem recounts_run (calls : List TierCall) : (start.run calls).Recounts calls.reverse := by
  suffices general : ∀ (tiers : Tiers) (history : List TierCall), tiers.Recounts history →
      (tiers.run calls).Recounts (calls.reverse ++ history) by
    have reached := general start [] recounts_start
    rwa [List.append_nil] at reached
  induction calls with
  | nil => exact fun _ _ recounts => recounts
  | cons call rest ih =>
    intro tiers history recounts
    rw [run_cons, List.reverse_cons, List.append_assoc]
    exact ih _ _ (recounts_advance recounts call)

structure AnswersAlike (tiers next : Tiers) (index : Nat) : Prop where
  get? : ∀ name, next.get? index name = tiers.get? index name
  has : ∀ name, next.has index name = tiers.has index name
  dump : next.dump index = tiers.dump index

theorem answersAlike_of {tiers next : Tiers} {index : Nat} (shared : next.shared = tiers.shared)
    (own : next.own index = tiers.own index) : tiers.AnswersAlike next index where
  get? name := by rw [Tiers.get?, shared, own, Tiers.get?]
  has name := by rw [Tiers.has, shared, own, Tiers.has]
  dump := by rw [Tiers.dump, shared, own, Tiers.dump]

theorem alike_of_target {tiers : Tiers} {call : TierCall} {target : Nat}
    (adds : call.target? = some target) :
    (tiers.advance call).shared = tiers.shared ∧
      ∀ index, index ≠ target → tiers.AnswersAlike (tiers.advance call) index := by
  have shared : (tiers.advance call).shared = tiers.shared := by
    cases call with
    | add _ _ _ | addMany _ _ => rfl
    | set _ _ | setMany _ | reset | load _ _ | new | clone _ => cases adds
  refine ⟨shared, fun index other => answersAlike_of shared ?_⟩
  cases call with
  | add _ _ _ | addMany _ _ =>
    cases adds
    exact (own_modify tiers target index _).trans (if_neg fun given => other given.1.symm)
  | set _ _ | setMany _ | reset | load _ _ | new | clone _ => cases adds

theorem own_clone (tiers : Tiers) (source : Nat) :
    (tiers.advance (.clone source)).own tiers.locals.length = tiers.own source :=
  (own_push tiers _ _).trans (if_pos rfl)

theorem alike_of_clone {tiers : Tiers} {index : Nat} (made : index < tiers.locals.length)
    (source : Nat) : tiers.AnswersAlike (tiers.advance (.clone source)) index :=
  answersAlike_of rfl ((own_push tiers _ _).trans (if_neg (Nat.ne_of_lt made)))

theorem run_of_error {tiers : Tiers} {call : TierCall} {failure : QueryError}
    (failed : tiers.step call = .error failure) (rest : List TierCall) :
    tiers.run (call :: rest) = tiers.run rest := by
  rw [run_cons, advance, failed]

theorem get?_dump {tiers : Tiers} {index : Nat} (distinct : (tiers.own index).keys.Nodup)
    (name : String) : (tiers.dump index).get? name = tiers.get? index name := by
  rw [dump, Settings.merged, OrderedMap.get?_insertMany, OrderedMap.lookup_reverse distinct]
  rfl

theorem has_iff {tiers : Tiers} {index : Nat} {name : String} :
    tiers.has index name = true ↔ tiers.get? index name ≠ none := by
  unfold has get? Settings.layered OrderedMap.contains
  cases (tiers.own index).get? name <;> cases tiers.shared.get? name <;> simp

-- Over any calls each configurator reads its own latest value, else the latest
-- of the shared tier, and its three ways to be asked tell the same. Adding
-- reaches one configurator; a clone starts out as its source and from then on
-- each of the two takes what is added to it; a settings file that cannot be
-- read changes nothing, and one that can is set as a whole.
theorem configurators_read_latest (calls : List TierCall) :
    let tiers := start.run calls
    (∀ index name,
      tiers.get? index name =
          ((TierCall.ownWrites calls.reverse index).lookup name).or
            ((TierCall.sharedWrites calls.reverse).lookup name) ∧
        (tiers.has index name = true ↔ tiers.get? index name ≠ none) ∧
        (name ∈ (tiers.dump index).keys ↔ tiers.get? index name ≠ none) ∧
        (tiers.dump index).get? name = tiers.get? index name) ∧
    (∀ call target, call.target? = some target →
      (tiers.run [call]).shared = tiers.shared ∧
        ∀ index, index ≠ target → tiers.AnswersAlike (tiers.run [call]) index) ∧
    (∀ source, source < TierCall.configurators calls.reverse →
      let made := TierCall.configurators calls.reverse
      let cloned := tiers.run [.clone source]
      cloned.own made = tiers.own source ∧
        (∀ index, index < made → tiers.AnswersAlike cloned index) ∧
        ∀ later name,
          let next := cloned.run later
          next.own made =
              (tiers.own source).insertMany (later.flatMap (TierCall.added made)) ∧
            next.own source =
              (tiers.own source).insertMany (later.flatMap (TierCall.added source)) ∧
            next.get? made name = ((next.own made).get? name).or (next.shared.get? name) ∧
            next.get? source name = ((next.own source).get? name).or (next.shared.get? name)) ∧
    (∀ path reason,
      tiers.step (.load path (.error reason)) = .error (.settingsUnreadable reason) ∧
        tiers.run [.load path (.error reason)] = tiers) ∧
    ∀ path text,
      match Toml.ofText? text with
      | none => tiers.step (.load path (.ok text)) = .error (.settingsSyntax path) ∧
          tiers.run [.load path (.ok text)] = tiers
      | some settings => tiers.step (.load path (.ok text)) = tiers.step (.setMany settings) := by
  intro tiers
  have recounts : tiers.Recounts calls.reverse := recounts_run calls
  have dumped := fun index => @get?_dump tiers index (recounts.distinct index)
  refine ⟨fun index name => ⟨?_, has_iff, ?_, dumped index name⟩,
    fun call target adds => alike_of_target adds, ?_, fun path reason => ⟨rfl, rfl⟩,
    fun path text => ?_⟩
  · rw [Tiers.get?, Settings.layered, recounts.own, recounts.shared]
  · rw [OrderedMap.mem_keys_iff, dumped]
  · intro source existing
    have length := recounts.length
    have grown : (tiers.advance (.clone source)).locals.length = tiers.locals.length + 1 :=
      length_advance tiers (.clone source)
    rw [← length] at existing ⊢
    have copied := own_clone tiers source
    have kept : (tiers.advance (.clone source)).own source = tiers.own source :=
      own_advance existing (.clone source)
    refine ⟨copied, fun index made => alike_of_clone made source, fun later name => ?_⟩
    have made : tiers.locals.length < (tiers.advance (.clone source)).locals.length := by omega
    have ofMade := own_run made later
    have ofSource := own_run (Nat.lt_trans existing made) later
    rw [copied] at ofMade
    rw [kept] at ofSource
    exact ⟨ofMade, ofSource, rfl, rfl⟩
  · split
    · rename_i unread
      have failed : tiers.step (.load path (.ok text)) = .error (.settingsSyntax path) := by
        simp only [step, Settings.ofFile, unread]
        rfl
      exact ⟨failed, run_of_error failed []⟩
    · rename_i settings read
      simp only [step, Settings.ofFile, read]
      rfl

def cloned : List TierCall :=
  [.set "cache" (.bool true), .add 0 "post_type" .null, .clone 0, .add 1 "post_type" (.str "page"),
    .load "missing.toml" (.error .missing), .reset, .set "return" (.str "count")]

theorem clone_takes_its_own_type :
    (start.run cloned).get? 0 "post_type" = some .null ∧
      (start.run cloned).has 0 "post_type" = true ∧
      (start.run cloned).get? 1 "post_type" = some (.str "page") ∧
      (start.run cloned).get? 1 "return" = some (.str "count") ∧
      (start.run cloned).get? 1 "cache" = none ∧
      ((start.run cloned).run [.add 1 "cache" .null]).get? 0 "cache" = none ∧
      ((start.run cloned).run [.clone 1]).own 2 = (start.run cloned).own 1 := by
  obtain ⟨answers, isolated, ofClone, -, -⟩ := configurators_read_latest cloned
  have own := (answers 0 "post_type").1.trans (by rfl : _ = some Json.null)
  have without := (answers 0 "cache").1.trans (by rfl : _ = none)
  refine ⟨own, (answers 0 "post_type").2.1.mpr (by rw [own]; exact Option.some_ne_none _),
    (answers 1 "post_type").1.trans (by rfl), (answers 1 "return").1.trans (by rfl),
    (answers 1 "cache").1.trans (by rfl), ?_, (ofClone 1 (by decide)).1⟩
  exact (((isolated (.add 1 "cache" .null) 1 rfl).2 0 (by decide)).get? "cache").trans without

end Tiers
end ContentQuery
