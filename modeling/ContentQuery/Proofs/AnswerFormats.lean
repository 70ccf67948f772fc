import ContentQuery.Proofs.Leftovers
import ContentQuery.Proofs.Selection

namespace ContentQuery

namespace Compilation

theorem addDefaults_congr {left right : Lookup} {names : List String}
    (same : ∀ name ∈ names, left name = right name) (arguments : Arguments) :
    names.foldl (addDefault left) arguments = names.foldl (addDefault right) arguments := by
  induction names generalizing arguments with
  | nil => rfl
  | cons name rest ih =>
    obtain ⟨first, others⟩ := List.forall_mem_cons.mp same
    rw [List.foldl_cons, List.foldl_cons, ih others, addDefault, addDefault, first]

theorem compile_congr {left right : Lookup}
    (same : ∀ name, Vocabulary.isArgument name = true → left name = right name)
    (bindings : Bindings) : compile left bindings = compile right bindings := by
  have defaulted : defaults left = defaults right := by
    apply addDefaults_congr
    intro name member
    exact same name (List.contains_iff_mem.mpr member)
  rw [compile, compile, defaulted]

end Compilation

namespace Format

theorem named?_name (format : Format) : named? format.name = some format := by
  cases format <;> decide

theorem named?_eq_none_iff {name : String} :
    named? name = none ↔ ∀ format : Format, format.name ≠ name := by
  rw [named?, List.find?_eq_none]
  constructor
  · intro unlisted format same
    have listed : format ∈ all := by
      cases format <;> decide
    exact unlisted format listed (beq_iff_eq.mpr same)
  · intro unlisted format _ same
    exact unlisted format (beq_iff_eq.mp same)

theorem named?_eq_some_iff {name : String} {format : Format} :
    named? name = some format ↔ format.name = name := by
  constructor
  · intro found
    have same := List.find?_some (p := fun format : Format => format.name == name) found
    exact beq_iff_eq.mp same
  · rintro rfl
    exact named?_name format

theorem formatter_eq_error_iff {format : Format} {store : Option Store} {failure : QueryError} :
    format.formatter store = .error failure ↔
      format.needsStore = true ∧ store = none ∧ failure = .noStore format := by
  cases store <;> cases format <;> simp [formatter, needsStore, eq_comm]

end Format

namespace Query
variable (query : Query) (shared : Settings)

inductive Unresolved : QueryError → Prop where
  | unset (absent : query.provider.lookup shared "return" = none) : Unresolved .noFormat
  | unnamed {setting : Json} (held : query.provider.lookup shared "return" = some setting)
      (noText : ∀ name, setting ≠ .str name) : Unresolved (.formatNotNamed setting)
  | unknown {name : String} (held : query.provider.lookup shared "return" = some (.str name))
      (unlisted : ∀ format : Format, format.name ≠ name) : Unresolved (.unknownFormat name)
  | storeless {format : Format}
      (held : query.provider.lookup shared "return" = some (.str format.name))
      (needs : format.needsStore = true) (bare : query.store = none) : Unresolved (.noStore format)

theorem Unresolved.kind {failure : QueryError} (unresolved : query.Unresolved shared failure) :
    failure.kind = .config := by
  cases unresolved <;> rfl

variable {query shared} {failure : QueryError}

theorem unresolved_of_error (unformatted : query.formatter = none)
    (failed : query.resolveFormatter shared none = .error failure) :
    query.Unresolved shared failure := by
  simp only [resolveFormatter, unformatted, Vocabulary.answerSetting] at failed
  split at failed
  · rename_i absent
    cases failed
    exact .unset absent
  · rename_i name held
    split at failed
    · rename_i format named
      obtain ⟨needs, bare, rfl⟩ := Format.formatter_eq_error_iff.mp failed
      exact .storeless (Format.named?_eq_some_iff.mp named ▸ held) needs bare
    · rename_i unlisted
      cases failed
      exact .unknown held (Format.named?_eq_none_iff.mp unlisted)
  · rename_i setting noText held
    cases failed
    exact .unnamed held noText

theorem error_of_unresolved (unformatted : query.formatter = none)
    (unresolved : query.Unresolved shared failure) :
    query.resolveFormatter shared none = .error failure := by
  simp only [resolveFormatter, unformatted, Vocabulary.answerSetting]
  cases unresolved with
  | unset absent => simp only [absent]
  | @unnamed setting held noText =>
    rw [held]
    cases setting with
    | str name => exact absurd rfl (noText name)
    | _ => rfl
  | unknown held unlisted =>
    simp only [held, Format.named?_eq_none_iff.mpr unlisted]
  | @storeless format held needs bare =>
    simp only [held, format.named?_name]
    exact Format.formatter_eq_error_iff.mpr ⟨needs, bare, rfl⟩

theorem resolveFormatter_eq_error_iff :
    query.resolveFormatter shared none = .error failure ↔
      query.formatter = none ∧ query.Unresolved shared failure := by
  constructor
  · intro failed
    cases own : query.formatter with
    | none => exact ⟨rfl, unresolved_of_error own failed⟩
    | some formatter => simp [resolveFormatter, own] at failed
  · rintro ⟨unformatted, unresolved⟩
    exact error_of_unresolved unformatted unresolved

theorem ask_of_unresolved
    (failed : query.resolveFormatter shared none = .error failure) :
    (query.ask shared .get).1 = .error failure ∧ (query.ask shared .first).1 = .error failure ∧
      (query.ask shared .all).1 = .error failure ∧
      ∀ id, (query.ask shared (.find id)).1 = .error failure := by
  simp only [ask_reply, reply, failed]
  exact ⟨rfl, rfl, rfl, fun _ => rfl⟩

end Query

namespace Session

-- Nothing tells these two apart but how they answer: the setting that names a
-- format and the formatter of the caller.
structure AlikeBesideFormat (left right : Session) : Prop where
  bindings : left.query.bindings = right.query.bindings
  store : left.query.store = right.query.store
  settings : ∀ name, name ≠ Vocabulary.answerSetting →
    left.query.provider.lookup left.shared name = right.query.provider.lookup right.shared name

namespace AlikeBesideFormat
variable {left right : Session}

theorem arguments (alike : left.AlikeBesideFormat right) : left.arguments = right.arguments := by
  rw [Session.arguments, Session.arguments, Query.arguments, Query.arguments, alike.bindings]
  apply Compilation.compile_congr
  intro name known
  apply alike.settings
  rintro rfl
  revert known
  decide

theorem answer (alike : left.AlikeBesideFormat right) (format : Format) :
    left.query.answer left.shared (some format) =
      right.query.answer right.shared (some format) := by
  have resolved : left.query.resolveFormatter left.shared (some format) =
      right.query.resolveFormatter right.shared (some format) := by
    rw [Query.resolveFormatter, Query.resolveFormatter, alike.store]
  have asked : left.query.arguments left.shared = right.query.arguments right.shared :=
    alike.arguments
  rw [Query.answer, Query.answer, resolved, asked]

end AlikeBesideFormat

theorem alike_of_configured (session : Session) (value : Json) (formatter : Option Formatter) :
    session.AlikeBesideFormat { session with query := { session.query with
      provider := session.query.provider.add [(Vocabulary.answerSetting, value)]
      formatter := formatter } } := by
  refine ⟨rfl, rfl, ?_⟩
  intro name other
  obtain ⟨own⟩ | ⟨settings⟩ := session.query.provider
  · have kept := OrderedMap.get?_insert_of_ne own other value
    simp [Provider.lookup, Provider.add, Settings.layered, OrderedMap.insertMany, kept]
  · have kept := OrderedMap.get?_insert_of_ne settings other value
    simp [Provider.lookup, Provider.add, OrderedMap.insertMany, kept]

-- What forces its format cannot be told how to answer. Everything else answers
-- with the formatter of the caller or the one that the settings name, and when
-- there is neither, with a fault of the configuration before anything else is
-- looked at.
theorem formats_settled_first (session : Session) :
    (∀ other : Session, session.AlikeBesideFormat other →
      (session.query.ask session.shared .count).1 = (other.query.ask other.shared .count).1 ∧
        ∀ column, (session.query.ask session.shared (.pluck column)).1 =
          (other.query.ask other.shared (.pluck column)).1) ∧
      (∀ failure, session.query.resolveFormatter session.shared none = .error failure ↔
        session.query.formatter = none ∧ session.query.Unresolved session.shared failure) ∧
      ∀ failure, session.query.formatter = none →
        session.query.Unresolved session.shared failure →
        failure.kind = .config ∧ (session.query.ask session.shared .get).1 = .error failure ∧
          (session.query.ask session.shared .first).1 = .error failure ∧
          (session.query.ask session.shared .all).1 = .error failure ∧
          ∀ id, (session.query.ask session.shared (.find id)).1 = .error failure := by
  refine ⟨?_, fun _ => Query.resolveFormatter_eq_error_iff, ?_⟩
  · intro other alike
    constructor
    · simp only [Query.ask, alike.answer]
    · intro column
      simp only [Query.ask, Query.pluck, alike.answer]
  · intro failure unformatted unresolved
    refine ⟨unresolved.kind, ?_⟩
    exact Query.ask_of_unresolved (Query.error_of_unresolved unformatted unresolved)

def listedPages : Session := ⟨.initial, { Query.fresh with store := some Store.pages }⟩

def unformattedPages : Session :=
  ⟨.initial, { listedPages.query with provider := .layered (.ofList [("return", .null)]) }⟩

theorem pages_counted_unformatted :
    Session.run ⟨.initial, .fresh⟩ [.call (.withStore Store.pages)] = .ok listedPages ∧
      listedPages.run [.call (.setting "return" .null)] = .ok unformattedPages ∧
      listedPages.AlikeBesideFormat unformattedPages ∧
      (unformattedPages.query.ask .initial .count).1 = .ok (.output (.count 3)) ∧
      unformattedPages.query.formatter = none ∧
      unformattedPages.query.Unresolved .initial (.formatNotNamed .null) ∧
      (unformattedPages.query.ask .initial .first).1 = .error (.formatNotNamed .null) := by
  have alike : listedPages.AlikeBesideFormat unformattedPages :=
    listedPages.alike_of_configured .null none
  obtain ⟨counted, -⟩ := listedPages.formats_settled_first.1 unformattedPages alike
  obtain ⟨-, decided, failed⟩ := unformattedPages.formats_settled_first
  obtain ⟨own, unresolved⟩ := (decided (.formatNotNamed .null)).mp rfl
  obtain ⟨-, -, first, -⟩ := failed (.formatNotNamed .null) own unresolved
  exact ⟨rfl, rfl, alike, counted.symm, own, unresolved, first⟩

end Session
end ContentQuery
