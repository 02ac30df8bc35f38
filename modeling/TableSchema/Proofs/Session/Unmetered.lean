import TableSchema.Proofs.Descriptor.Unmetered
import TableSchema.Proofs.Session.Call

/-!
What turning metrics off changes in a session: nothing is counted, and all else goes on as before.
Two runs that differ in the flag alone answer the same, log the same and end in sessions that again
differ in the flag alone.
-/

namespace TableSchema

open Verification (Verifier)

def Environment.unmetered (environment : Environment) : Environment :=
  { environment with metrics := some "0" }

theorem Settings.ofEnvironment_unmetered (environment : Environment) :
    ofEnvironment environment.unmetered = (ofEnvironment environment).unmetered := by
  have off : readFlag (some "0") true = false := by decide
  simp only [ofEnvironment, Environment.unmetered, Settings.unmetered, off]

def Step.unmetered : Step → Step
  | setEnvironment environment => setEnvironment environment.unmetered
  | setUpLogging given => setUpLogging (given.map Settings.unmetered)
  | create slot draft given => create slot draft (given.map Settings.unmetered)
  | step => step

/-- The call with all settings that it brings along changed to disable metrics. -/
def Call.unmetered : Call → Call
  | step s => step s.unmetered
  | validate columns constraints given =>
    validate columns constraints (given.map Settings.unmetered)
  | checkFilter filter given => checkFilter filter (given.map Settings.unmetered)
  | verify verifier sql => verify verifier sql

/-- Settings that are shown are shown without the flag. -/
def Reply.unmetered : Reply → Reply
  | settings s => settings s.unmetered
  | reply => reply

def Answer.unmetered : Answer → Answer
  | reply r => reply r.unmetered
  | answer => answer

def Observed.unmetered (x : Observed Answer) : Observed Answer :=
  Answer.unmetered <$> x.uncounted

namespace Verification.Verifier

theorem filter_isLogged_rejectionEvents (r : Rejection) :
    (rejectionEvents r).filter Event.isLogged = rejectionEvents r := by
  refine List.filter_eq_self.2 fun event mem => ?_
  rcases List.mem_append.1 mem with told | warned
  · obtain ⟨problem, -, same⟩ := List.mem_filterMap.1 told
    cases problem with
    | unparsable message =>
      obtain rfl := Option.some.inj same
      rfl
    | _ => simp at same
  · obtain rfl := List.mem_singleton.1 warned
    rfl

theorem uncounted_verify (v : Verifier) (sql : Value) :
    (v.verify sql).uncounted = v.verify sql := by
  unfold verify
  rw [Observed.uncounted_bind, Observed.uncounted_lift]
  refine congrArg (Observed.bind _) (funext fun statement => ?_)
  unfold verifyText
  dsimp only
  rw [Observed.uncounted_bind, Observed.uncounted_emit]
  cases (v.judge (Text.strip statement)).rejection with
  | none => rfl
  | some r =>
    rw [Option.map_some, Option.getD_some, filter_isLogged_rejectionEvents]
    rfl

end Verification.Verifier

theorem Descriptor.unmetered_map_answer (d : Descriptor) (q : Query) :
    Reply.unmetered <$> d.answer q = d.answer q := by
  cases q <;> first | rfl | exact (comp_map ..).symm

namespace Session

variable (s : Session)

def unmetered : Session where
  environment := s.environment.unmetered
  captured := s.captured.map Settings.unmetered
  slots := s.slots.map fun entry => (entry.1, entry.2.unmetered)

theorem find?_unmetered (slot : String) :
    s.unmetered.find? slot = (s.find? slot).map Descriptor.unmetered := by
  change (s.slots.map fun entry => (entry.1, entry.2.unmetered)).lookup slot =
    (s.slots.lookup slot).map Descriptor.unmetered
  induction s.slots with
  | nil => rfl
  | cons entry slots ih =>
    rw [List.map_cons, List.lookup_cons, List.lookup_cons, ih]
    cases slot == entry.1 <;> rfl

theorem erase_unmetered (slot : String) : s.unmetered.erase slot = (s.erase slot).unmetered := by
  unfold erase unmetered
  rw [List.filter_map]
  rfl

theorem put_unmetered (slot : String) (d : Descriptor) :
    s.unmetered.put slot d.unmetered = (s.put slot d).unmetered := by
  unfold put
  rw [erase_unmetered]
  rfl

theorem settings_unmetered : s.unmetered.settings = s.settings.unmetered := by
  unfold settings
  cases captured : s.captured with
  | none => simp [unmetered, captured, Settings.ofEnvironment_unmetered]
  | some settings => simp [unmetered, captured]

theorem capture_unmetered : s.unmetered.capture = s.capture.unmetered := by
  unfold capture
  rw [settings_unmetered]
  rfl

theorem settingsOr_unmetered (given : Option Settings) :
    s.unmetered.settingsOr (given.map Settings.unmetered) =
      ((s.settingsOr given).1.unmetered, (s.settingsOr given).2.unmetered) := by
  cases given with
  | none => exact Prod.ext s.settings_unmetered s.capture_unmetered
  | some settings => rfl

theorem create_unmetered (slot : String) (draft : Draft) (given : Option Settings) :
    s.unmetered.create slot draft (given.map Settings.unmetered) =
      (Reply.unmetered <$> (s.create slot draft given).1.uncounted,
        (s.create slot draft given).2.unmetered) := by
  unfold create
  rw [erase_unmetered, settingsOr_unmetered]
  dsimp only
  rw [Descriptor.ofDraft_unmetered]
  cases Descriptor.ofDraft ((s.erase slot).settingsOr given).1 draft with
  | error fault => rfl
  | ok d => exact Prod.ext rfl (put_unmetered ..)

theorem freeze_unmetered (source target : String) :
    s.unmetered.freeze source target =
      (Reply.unmetered <$> (s.freeze source target).1.uncounted,
        (s.freeze source target).2.unmetered) := by
  unfold freeze
  rw [find?_unmetered]
  cases s.find? source with
  | none => rfl
  | some d =>
    dsimp only [Option.map_some]
    rw [Descriptor.freeze_unmetered, Observed.uncounted_map]
    obtain ⟨outcome, events⟩ := d.freeze
    cases outcome with
    | error fault => exact Prod.ext rfl (s.erase_unmetered target)
    | ok copy =>
      refine Prod.ext ?_ (s.put_unmetered target copy)
      simp only [Observed.map_eq]
      rfl

theorem extend_unmetered (slot : String)
    {change : Descriptor → Descriptor × Except Fault Unit}
    (same : ∀ d : Descriptor, change d.unmetered = ((change d).1.unmetered, (change d).2)) :
    s.unmetered.extend slot change =
      (Reply.unmetered <$> (s.extend slot change).1.uncounted,
        (s.extend slot change).2.unmetered) := by
  unfold extend
  rw [find?_unmetered]
  cases s.find? slot with
  | none => rfl
  | some d =>
    dsimp only [Option.map_some]
    rw [same, Observed.uncounted_map]
    refine Prod.ext ?_ (s.put_unmetered slot (change d).1)
    simp only [Observed.map_eq]
    cases (change d).2 <;> rfl

theorem step_unmetered (step : Step) :
    s.unmetered.step step.unmetered =
      (Reply.unmetered <$> (s.step step).1.uncounted, (s.step step).2.unmetered) := by
  cases step with
  | setEnvironment environment => rfl
  | clearSettings => rfl
  | readEnvironment =>
    refine Prod.ext ?_ rfl
    exact congrArg (fun settings => pure (Reply.settings settings))
      (Settings.ofEnvironment_unmetered s.environment)
  | currentSettings =>
    refine Prod.ext ?_ s.capture_unmetered
    exact congrArg (fun settings => pure (Reply.settings settings)) s.settings_unmetered
  | setUpLogging given =>
    unfold step Step.unmetered
    dsimp only
    rw [settingsOr_unmetered]
    have same : LogSetup.ofSettings (s.settingsOr given).1.unmetered =
        LogSetup.ofSettings (s.settingsOr given).1 := rfl
    refine Prod.ext ?_ rfl
    dsimp only
    rw [same, Observed.uncounted_map]
    cases LogSetup.ofSettings (s.settingsOr given).1 <;> rfl
  | create slot draft given => exact s.create_unmetered slot draft given
  | discard slot => exact Prod.ext rfl (s.erase_unmetered slot)
  | freeze source target => exact s.freeze_unmetered source target
  | addColumns slot columns =>
    exact s.extend_unmetered slot fun d => d.add_unmetered .column columns.oneOrMore
  | addConstraints slot constraints =>
    exact s.extend_unmetered slot fun d => d.add_unmetered .constraint constraints.oneOrMore
  | ask slot query =>
    change s.unmetered.step (.ask slot query) = _
    cases held : s.find? slot with
    | none =>
      have absent : s.unmetered.find? slot = none := by rw [find?_unmetered, held]; rfl
      rw [step_ask_of_absent held, step_ask_of_absent absent]
      rfl
    | some d =>
      have present : s.unmetered.find? slot = some d.unmetered := by
        rw [find?_unmetered, held]
        rfl
      rw [step_ask_of_held held, step_ask_of_held present, Descriptor.answer_unmetered,
        ← Observed.uncounted_map, Descriptor.unmetered_map_answer]

theorem call_unmetered (c : Call) :
    s.unmetered.call c.unmetered = ((s.call c).1.unmetered, (s.call c).2.unmetered) := by
  cases c with
  | step step =>
    unfold call Call.unmetered
    dsimp only
    rw [step_unmetered, Observed.unmetered, Observed.uncounted_map, ← comp_map, ← comp_map]
    rfl
  | validate columns constraints given =>
    unfold call Call.unmetered
    dsimp only
    rw [settingsOr_unmetered, Validation.validate_unmetered, Observed.unmetered,
      Observed.uncounted_map, ← comp_map, apply_ite unmetered]
    rfl
  | checkFilter filter given =>
    unfold call Call.unmetered
    dsimp only
    rw [settingsOr_unmetered, Validation.checkFilter_unmetered, Observed.unmetered,
      Observed.uncounted_map, ← comp_map, apply_ite unmetered]
    rfl
  | verify verifier sql =>
    unfold call Call.unmetered
    dsimp only
    rw [Observed.unmetered, Observed.uncounted_map, ← comp_map, Verifier.uncounted_verify]
    rfl

theorem calls_unmetered (calls : List Call) :
    s.unmetered.calls (calls.map Call.unmetered) =
      ((s.calls calls).1.map Observed.unmetered, (s.calls calls).2.unmetered) := by
  induction calls generalizing s with
  | nil => rfl
  | cons c calls ih =>
    rw [List.map_cons, Session.calls, call_unmetered]
    dsimp only
    rw [ih]
    rfl

end Session

end TableSchema
