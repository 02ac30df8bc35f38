import TableSchema.Proofs.Session.History

/-!
Invariants of sessions. What every descriptor satisfies as it is built, and goes on to satisfy when
it is extended and when it is copied by freezing, holds of whatever a session comes to hold.
-/

namespace TableSchema.Session

variable {s : Session} {slot : String} {steps : List Step} {d : Descriptor}

structure IsInvariant (P : Descriptor → Prop) : Prop where
  built : ∀ {settings : Settings} {draft : Draft} {d : Descriptor},
    Descriptor.ofDraft settings draft = .ok d → P d
  extended : ∀ {d : Descriptor} (added : (m : Member) → List m.Item),
    P d → P (d.extendedBy added)
  copied : ∀ {d copy : Descriptor}, P d → d.freeze.outcome = .ok copy → P copy

def AllHeld (P : Descriptor → Prop) (s : Session) : Prop :=
  ∀ slot d, s.find? slot = some d → P d

variable {P : Descriptor → Prop}

theorem AllHeld.of_find?_eq {s' : Session} (all : s.AllHeld P) (same : s'.find? = s.find?) :
    s'.AllHeld P := by
  intro slot d held
  rw [same] at held
  exact all slot d held

theorem AllHeld.erase (all : s.AllHeld P) (slot : String) : (s.erase slot).AllHeld P := by
  intro other d held
  rw [find?_erase] at held
  split at held
  next => simp at held
  next => exact all other d held

theorem AllHeld.put (all : s.AllHeld P) (p : P d) (slot : String) : (s.put slot d).AllHeld P := by
  intro other d' held
  rw [find?_put] at held
  split at held
  next =>
    obtain rfl := Option.some.inj held
    exact p
  next => exact all other d' held

theorem settingsOr_erase (s : Session) (slot : String) (given : Option Settings) :
    ((s.erase slot).settingsOr given).1 = (s.settingsOr given).1 := by
  cases given <;> rfl

theorem AllHeld.of_call (all : s.AllHeld P)
    (extended : ∀ d added, P d → P (d.extendedBy added)) (m : Member) (target : String)
    (given : Value) : (s.step (m.call target given)).2.AllHeld P := by
  intro slot d held
  rw [find?_call] at held
  obtain ⟨original, present, rfl⟩ := Option.map_eq_some_iff.1 held
  exact extended original _ (all slot original present)

theorem AllHeld.step_of (all : s.AllHeld P) (step : Step)
    (built : ∀ slot draft given d, step = .create slot draft given →
      Descriptor.ofDraft (s.settingsOr given).1 draft = .ok d → P d)
    (extended : ∀ d added, P d → P (d.extendedBy added))
    (copied : ∀ d copy, P d → d.freeze.outcome = .ok copy → P copy) :
    (s.step step).2.AllHeld P := by
  cases step with
  | create slot draft given =>
    change (s.create slot draft given).2.AllHeld P
    unfold create
    dsimp only
    cases made : Descriptor.ofDraft ((s.erase slot).settingsOr given).1 draft with
    | error fault => exact all.erase slot
    | ok d =>
      rw [settingsOr_erase] at made
      have kept : ((s.erase slot).settingsOr given).2.AllHeld P :=
        (all.erase slot).of_find?_eq (find?_settingsOr (s.erase slot) given)
      exact kept.put (built slot draft given d rfl made) slot
  | discard slot => exact all.erase slot
  | freeze source target =>
    change (s.freeze source target).2.AllHeld P
    unfold freeze
    split
    next => exact all
    next d held =>
      dsimp only
      split
      next copy answer => exact all.put (copied d copy (all source d held) answer) target
      next => exact all.erase target
  | addColumns slot given => exact all.of_call extended .column slot given
  | addConstraints slot given => exact all.of_call extended .constraint slot given
  | setUpLogging given => exact all.of_find?_eq (find?_settingsOr s given)
  | _ => exact all.of_find?_eq rfl

theorem AllHeld.step (inv : IsInvariant P) (all : s.AllHeld P) (step : Step) :
    (s.step step).2.AllHeld P :=
  all.step_of step (fun _ _ _ _ _ built => inv.built built)
    (fun _ added p => inv.extended added p)
    fun _ _ p copied => inv.copied p copied

theorem AllHeld.run (inv : IsInvariant P) (all : s.AllHeld P) (steps : List Step) :
    (s.run steps).2.AllHeld P := by
  induction steps generalizing s with
  | nil => exact all
  | cons step steps ih => exact ih (all.step inv step)

theorem allHeld_of_fresh (fresh : s.slots = []) : s.AllHeld P := by
  intro slot d held
  rw [find?, fresh] at held
  simp at held

theorem IsInvariant.of_find?_run (inv : IsInvariant P) (fresh : s.slots = [])
    (held : (s.run steps).2.find? slot = some d) : P d :=
  (allHeld_of_fresh fresh).run inv steps slot d held

end TableSchema.Session
