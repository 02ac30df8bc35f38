import TableSchema.Descriptor.Query

/-!
Sessions: descriptors in named slots, worked on step by step, together with the environment and the
settings read from it. The environment is read when settings are first needed; what was read then
stays in force until it is cleared.
-/

namespace TableSchema

structure Session where
  environment : Environment := {}
  /-- The settings read from the environment, once they have been needed. -/
  captured : Option Settings := none
  slots : List (String × Descriptor) := []

inductive Step
  | setEnvironment (environment : Environment)
  | clearSettings
  /-- Reads the environment anew and keeps nothing of it. -/
  | readEnvironment
  | currentSettings
  | setUpLogging (settings : Option Settings)
  | create (slot : String) (draft : Draft) (settings : Option Settings)
  | discard (slot : String)
  | freeze (source target : String)
  /-- Adds one column or several. -/
  | addColumns (slot : String) (columns : Value)
  | addConstraints (slot : String) (constraints : Value)
  | ask (slot : String) (query : Query)

namespace Session

def find? (s : Session) (slot : String) : Option Descriptor :=
  s.slots.lookup slot

def erase (s : Session) (slot : String) : Session :=
  { s with slots := s.slots.filter (·.1 != slot) }

def put (s : Session) (slot : String) (d : Descriptor) : Session :=
  { s.erase slot with slots := (slot, d) :: (s.erase slot).slots }

def require (s : Session) (slot : String) : Except Fault Descriptor :=
  match s.find? slot with
  | some d => .ok d
  | none => .error (.noDescriptor slot)

/-- The settings in force. -/
def settings (s : Session) : Settings :=
  s.captured.getD (Settings.ofEnvironment s.environment)

def capture (s : Session) : Session :=
  { s with captured := some s.settings }

/-- The settings given, or else those in force, which stay captured. -/
def settingsOr (s : Session) : Option Settings → Settings × Session
  | some given => (given, s)
  | none => (s.settings, s.capture)

/-- The slot is empty before the descriptor is built and stays so if it cannot be. -/
def create (s : Session) (slot : String) (draft : Draft) (given : Option Settings) :
    Observed Reply × Session :=
  let (settings, after) := (s.erase slot).settingsOr given
  match Descriptor.ofDraft settings draft with
  | .ok d => (pure (.summary d.summary), after.put slot d)
  | .error fault => (Observed.lift (.error fault), s.erase slot)

/-- Without a source nothing happens. Otherwise the target is empty before the source is frozen and
stays so if that fails. -/
def freeze (s : Session) (source target : String) : Observed Reply × Session :=
  match s.find? source with
  | none => (Observed.lift (.error (.noDescriptor source)), s)
  | some d =>
    ((fun copy => .summary copy.summary) <$> d.freeze,
      match d.freeze.outcome with
      | .ok copy => s.put target copy
      | .error _ => s.erase target)

/-- Changes the descriptor in a slot. -/
def extend (s : Session) (slot : String)
    (change : Descriptor → Descriptor × Except Fault Unit) : Observed Reply × Session :=
  match s.find? slot with
  | none => (Observed.lift (.error (.noDescriptor slot)), s)
  | some d => ((fun _ => .done) <$> Observed.lift (change d).2, s.put slot (change d).1)

def step (s : Session) : Step → Observed Reply × Session
  | .setEnvironment environment => (pure .done, { s with environment })
  | .clearSettings => (pure .done, { s with captured := none })
  | .readEnvironment => (pure (.settings (Settings.ofEnvironment s.environment)), s)
  | .currentSettings => (pure (.settings s.settings), s.capture)
  | .setUpLogging given =>
    let (settings, after) := s.settingsOr given
    (.logSetup <$> Observed.lift (LogSetup.ofSettings settings), after)
  | .create slot draft given => s.create slot draft given
  | .discard slot => (pure .done, s.erase slot)
  | .freeze source target => s.freeze source target
  | .addColumns slot columns => s.extend slot (·.add .column columns.oneOrMore)
  | .addConstraints slot constraints => s.extend slot (·.add .constraint constraints.oneOrMore)
  | .ask slot query =>
    (do
      let d ← Observed.lift (s.require slot)
      d.answer query, s)

/-- The answers to a sequence of steps, and the session after the last. -/
def run (s : Session) : List Step → List (Observed Reply) × Session
  | [] => ([], s)
  | step :: steps =>
    let (reply, after) := s.step step
    let (replies, last) := after.run steps
    (reply :: replies, last)

theorem lookup_filter_ne {α : Type} (slot other : String) (slots : List (String × α)) :
    (slots.filter (·.1 != slot)).lookup other =
      if other = slot then none else slots.lookup other := by
  induction slots with
  | nil => simp
  | cons entry slots ih =>
    obtain ⟨name, a⟩ := entry
    by_cases hn : name = slot
    · subst hn
      rw [List.filter_cons_of_neg (by simp), ih]
      by_cases ho : other = name
      · simp [ho]
      · simp [ho, List.lookup_cons, beq_false_of_ne ho]
    · rw [List.filter_cons_of_pos (by simp [hn]), List.lookup_cons, List.lookup_cons, ih]
      by_cases ho : other = name
      · simp [ho, hn]
      · simp [beq_false_of_ne ho]

theorem find?_erase (s : Session) (slot other : String) :
    (s.erase slot).find? other = if other = slot then none else s.find? other :=
  lookup_filter_ne slot other s.slots

theorem find?_put (s : Session) (slot other : String) (d : Descriptor) :
    (s.put slot d).find? other = if other = slot then some d else s.find? other := by
  have h := find?_erase s slot other
  by_cases ho : other = slot <;>
    simp_all [find?, put, List.lookup_cons, beq_false_of_ne]

end Session

end TableSchema
