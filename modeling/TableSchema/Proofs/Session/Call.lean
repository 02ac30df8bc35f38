import TableSchema.Proofs.Descriptor.Ledger
import TableSchema.Proofs.Session.Invariant

/-!
Everything that can be called in the course of a session, and the settings that a call goes by:
those of the descriptor that it is about, those given, or else those in force.
-/

namespace TableSchema

open Verification (Verifier Verdict)

inductive Call
  | step (step : Step)
  | validate (columns : List Column) (constraints : List ForeignKey) (given : Option Settings)
  | checkFilter (filter : Value) (given : Option Settings)
  | verify (verifier : Verifier) (sql : Value)

inductive Answer
  | reply (reply : Reply)
  | issues (found : List Issue)
  | verdict (verdict : Verdict)

namespace Session

variable {s : Session} {slot : String} {d : Descriptor}

def call (s : Session) : Call → Observed Answer × Session
  | .step step => (.reply <$> (s.step step).1, (s.step step).2)
  | .validate columns constraints given =>
    let (settings, after) := s.settingsOr given
    let found := Validation.validate settings columns constraints
    (.issues <$> found, if found.outcome.isOk then after else s)
  | .checkFilter filter given =>
    let (settings, after) := s.settingsOr given
    let found := Validation.checkFilter settings filter
    (.issues <$> found, if Validation.series found = [] then s else after)
  | .verify verifier sql => (.verdict <$> verifier.verify sql, s)

def calls (s : Session) : List Call → List (Observed Answer) × Session
  | [] => ([], s)
  | call :: rest =>
    let (answer, after) := s.call call
    let (answers, last) := after.calls rest
    (answer :: answers, last)

def isCounting (s : Session) : Call → Bool
  | .step (.ask slot _) => (s.find? slot).any (·.settings.metricsEnabled)
  | .step (.freeze source _) => (s.find? source).any (·.settings.metricsEnabled)
  | .validate _ _ given => (s.settingsOr given).1.metricsEnabled
  | .checkFilter _ given => (s.settingsOr given).1.metricsEnabled
  | _ => false

theorem step_ask_of_held {query : Query} (held : s.find? slot = some d) :
    s.step (.ask slot query) = (d.answer query, s) := by
  have present : s.require slot = .ok d := by rw [require, held]
  rw [step, present, Observed.lift_ok_bind]

theorem step_ask_of_absent {query : Query} (absent : s.find? slot = none) :
    s.step (.ask slot query) = (Observed.lift (.error (.noDescriptor slot)), s) := by
  have missing : s.require slot = .error (.noDescriptor slot) := by rw [require, absent]
  rw [step, missing]
  rfl

section Frame

structure SameSource (s s' : Session) : Prop where
  environment : s'.environment = s.environment
  captured : s'.captured = s.captured

theorem sameSource_extend (s : Session) (slot : String)
    (change : Descriptor → Descriptor × Except Fault Unit) :
    s.SameSource (s.extend slot change).2 := by
  unfold extend
  split <;> exact ⟨rfl, rfl⟩

theorem sameSource_freeze (s : Session) (source target : String) :
    s.SameSource (s.freeze source target).2 := by
  unfold freeze
  split
  · exact ⟨rfl, rfl⟩
  · dsimp only
    split <;> exact ⟨rfl, rfl⟩

theorem environment_settingsOr (s : Session) (given : Option Settings) :
    (s.settingsOr given).2.environment = s.environment := by
  cases given <;> rfl

theorem captured_settingsOr (s : Session) (given : Option Settings) :
    (s.settingsOr given).2.captured = s.captured ∨
      (s.settingsOr given).2.captured = some s.settings := by
  cases given with
  | none => exact .inr rfl
  | some settings => exact .inl rfl

theorem source_create (s : Session) (slot : String) (draft : Draft) (given : Option Settings) :
    (s.create slot draft given).2.environment = s.environment ∧
      ((s.create slot draft given).2.captured = s.captured ∨
        (s.create slot draft given).2.captured = some s.settings) := by
  unfold create
  dsimp only
  split
  · exact ⟨environment_settingsOr (s.erase slot) given, captured_settingsOr (s.erase slot) given⟩
  · exact ⟨rfl, .inl rfl⟩

theorem environment_step (s : Session) (step : Step) :
    (s.step step).2.environment = s.environment ∨
      step = .setEnvironment (s.step step).2.environment := by
  cases step with
  | setEnvironment environment => exact .inr rfl
  | setUpLogging given => exact .inl (environment_settingsOr s given)
  | create slot draft given => exact .inl (source_create s slot draft given).1
  | freeze source target => exact .inl (sameSource_freeze s source target).environment
  | addColumns slot columns => exact .inl (sameSource_extend s slot _).environment
  | addConstraints slot constraints => exact .inl (sameSource_extend s slot _).environment
  | _ => exact .inl rfl

theorem captured_step (s : Session) (step : Step) :
    (s.step step).2.captured = s.captured ∨ (s.step step).2.captured = some s.settings ∨
      (s.step step).2.captured = none := by
  cases step with
  | clearSettings => exact .inr (.inr rfl)
  | currentSettings => exact .inr (.inl rfl)
  | setUpLogging given => exact (captured_settingsOr s given).imp_right .inl
  | create slot draft given => exact (source_create s slot draft given).2.imp_right .inl
  | freeze source target => exact .inl (sameSource_freeze s source target).captured
  | addColumns slot columns => exact .inl (sameSource_extend s slot _).captured
  | addConstraints slot constraints => exact .inl (sameSource_extend s slot _).captured
  | _ => exact .inl rfl

end Frame

end Session

/-- A descriptor that the call builds is given a text for its table's name. -/
def Call.IsNamed : Call → Prop
  | .step (.create _ draft _) => ∃ name, draft.tableName = .text name
  | _ => True

/-- Whatever settings the call brings along enable metrics, or disable them. -/
def Call.WithMetrics (enabled : Bool) : Call → Prop
  | .step (.setEnvironment environment) =>
    (Settings.ofEnvironment environment).metricsEnabled = enabled
  | .step (.create _ _ given) => ∀ settings ∈ given, settings.metricsEnabled = enabled
  | .validate _ _ given => ∀ settings ∈ given, settings.metricsEnabled = enabled
  | .checkFilter _ given => ∀ settings ∈ given, settings.metricsEnabled = enabled
  | _ => True

namespace Session

variable {s : Session} {c : Call} {enabled : Bool}

def IsNamed (s : Session) : Prop :=
  s.AllHeld fun d => ∃ name, d.tableName = .text name

structure WithMetrics (enabled : Bool) (s : Session) : Prop where
  environment : (Settings.ofEnvironment s.environment).metricsEnabled = enabled
  captured : ∀ settings ∈ s.captured, settings.metricsEnabled = enabled
  held : s.AllHeld fun d => d.settings.metricsEnabled = enabled

theorem WithMetrics.settings (metrics : s.WithMetrics enabled) :
    s.settings.metricsEnabled = enabled := by
  unfold Session.settings
  cases captured : s.captured with
  | none => exact metrics.environment
  | some settings => exact metrics.captured settings captured

theorem WithMetrics.settingsOr (metrics : s.WithMetrics enabled) {given : Option Settings}
    (brought : ∀ settings ∈ given, settings.metricsEnabled = enabled) :
    (s.settingsOr given).1.metricsEnabled = enabled := by
  cases given with
  | none => exact metrics.settings
  | some settings => exact brought settings rfl

theorem WithMetrics.of_source (metrics : s.WithMetrics enabled) {s' : Session}
    (environment : (Settings.ofEnvironment s'.environment).metricsEnabled = enabled)
    (captured : s'.captured = s.captured ∨ s'.captured = some s.settings ∨ s'.captured = none)
    (held : s'.AllHeld fun d => d.settings.metricsEnabled = enabled) :
    s'.WithMetrics enabled := by
  refine ⟨environment, ?_, held⟩
  intro settings mem
  rcases captured with same | same | same
  · exact metrics.captured settings (same ▸ mem)
  · rw [same] at mem
    obtain rfl := Option.some.inj mem
    exact metrics.settings
  · rw [same] at mem
    simp at mem

theorem IsNamed.step (named : s.IsNamed) {step : Step} (names : (Call.step step).IsNamed) :
    (s.step step).2.IsNamed := by
  refine AllHeld.step_of named step ?_ ?_ ?_
  · rintro slot draft given d rfl built
    obtain ⟨-, tableName, -⟩ := Descriptor.ofDraft_eq_ok built
    rw [tableName]
    exact names
  · intro d added text
    rwa [Descriptor.tableName_extendedBy]
  · intro d copy text frozen
    obtain ⟨issues, aliasName, -, -, -, rfl⟩ := Descriptor.freeze_eq_ok frozen
    exact text

theorem WithMetrics.step (metrics : s.WithMetrics enabled) {step : Step}
    (brought : (Call.step step).WithMetrics enabled) : (s.step step).2.WithMetrics enabled := by
  refine metrics.of_source ?_ (captured_step s step) ?_
  · rcases environment_step s step with same | sets
    · rw [same]
      exact metrics.environment
    · rw [sets] at brought
      exact brought
  · refine AllHeld.step_of metrics.held step ?_ ?_ ?_
    · rintro slot draft given d rfl built
      rw [Descriptor.settings_of_ofDraft built]
      exact metrics.settingsOr brought
    · intro d added flag
      rwa [Descriptor.settings_extendedBy]
    · intro d copy flag frozen
      obtain ⟨issues, aliasName, -, -, -, rfl⟩ := Descriptor.freeze_eq_ok frozen
      exact flag

theorem WithMetrics.after_settingsOr (metrics : s.WithMetrics enabled) (given : Option Settings) :
    (s.settingsOr given).2.WithMetrics enabled := by
  refine metrics.of_source ?_ ((captured_settingsOr s given).imp_right .inl)
    (metrics.held.of_find?_eq (find?_settingsOr s given))
  rw [environment_settingsOr]
  exact metrics.environment

theorem IsNamed.call (named : s.IsNamed) (names : c.IsNamed) : (s.call c).2.IsNamed := by
  cases c with
  | step step => exact named.step names
  | validate columns constraints given =>
    unfold Session.call
    dsimp only
    split
    · exact AllHeld.of_find?_eq named (find?_settingsOr s given)
    · exact named
  | checkFilter filter given =>
    unfold Session.call
    dsimp only
    split
    · exact named
    · exact AllHeld.of_find?_eq named (find?_settingsOr s given)
  | verify verifier sql => exact named

theorem WithMetrics.call (metrics : s.WithMetrics enabled) (brought : c.WithMetrics enabled) :
    (s.call c).2.WithMetrics enabled := by
  cases c with
  | step step => exact metrics.step brought
  | validate columns constraints given =>
    unfold Session.call
    dsimp only
    split
    · exact metrics.after_settingsOr given
    · exact metrics
  | checkFilter filter given =>
    unfold Session.call
    dsimp only
    split
    · exact metrics
    · exact metrics.after_settingsOr given
  | verify verifier sql => exact metrics

theorem IsNamed.calls (named : s.IsNamed) {calls : List Call}
    (names : ∀ c ∈ calls, c.IsNamed) : (s.calls calls).2.IsNamed := by
  induction calls generalizing s with
  | nil => exact named
  | cons c calls ih =>
    rw [List.forall_mem_cons] at names
    exact ih (named.call names.1) names.2

end Session

end TableSchema
