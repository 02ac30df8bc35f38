import Mathlib.Data.List.Basic
import TableSchema.Proofs.Session.History

/-!
Builders over whole sessions. Every descriptor that a session holds is what it was built from and
what was added to it since, in order; a frozen one takes nothing more, and work on one descriptor
never shows in another.
-/

namespace TableSchema

/-- The slot whose content a step may change. -/
def Step.target? : Step → Option String
  | .create slot .. | .discard slot | .freeze _ slot | .addColumns slot _
  | .addConstraints slot _ => some slot
  | _ => none

namespace Session

variable {s : Session} {slot : String} {step : Step} {steps : List Step} {d : Descriptor}

/-- Where a descriptor that a session holds comes from. -/
def IsHistory (s₀ : Session) (steps : List Step) (slot : String) (d : Descriptor) : Prop :=
  ∃ before made after d₀, steps = before ++ made :: after ∧
    ((s₀.run before).2.step made).2.Keeps slot after ∧
    (s₀.run before).2.Origin slot made d₀ ∧ d.frozen = d₀.frozen ∧
    (d₀.frozen = true → ∀ m : Member, m.held d = m.held d₀) ∧
    (d₀.frozen = false → ∀ m : Member, ∃ parts,
      Adds m slot after parts ∧ m.held d = m.held d₀ ++ parts)

theorem isHistory_of_find? {s₀ : Session} (fresh : s₀.slots = [])
    (held : (s₀.run steps).2.find? slot = some d) : s₀.IsHistory steps slot d := by
  rcases s₀.keeps_or_exists_last slot steps with kept | ⟨before, made, after, rfl, replaces, kept⟩
  · have empty : s₀.find? slot = none := by rw [find?, fresh]; rfl
    rw [find?_run_of_keeps kept, empty] at held
    simp at held
  · rw [run_append, run] at held
    dsimp only at held
    rw [find?_run_of_keeps kept, Option.map_eq_some_iff] at held
    obtain ⟨d₀, start, rfl⟩ := held
    refine ⟨before, made, after, d₀, rfl, kept, origin_of_replaces replaces start, ?_⟩
    cases frozen : d₀.frozen with
    | true =>
      rw [Descriptor.extendedBy_of_frozen _ frozen]
      exact ⟨frozen, fun _ m => rfl, fun unfrozen => absurd unfrozen (by simp)⟩
    | false =>
      have same : (d₀.extendedBy (added slot after)).frozen = d₀.frozen := by
        rw [Descriptor.extendedBy_of_not_frozen _ frozen]
      refine ⟨same.trans frozen, fun other => absurd other (by simp), fun _ m => ?_⟩
      exact ⟨added slot after m, adds_added m slot after, Descriptor.held_extendedBy _ frozen m⟩

theorem find?_step_of_target_ne (other : step.target? ≠ some slot) :
    (s.step step).2.find? slot = s.find? slot := by
  have kept : ¬ s.Replaces slot step := by
    cases step with
    | create target draft given => exact fun same => other (congrArg some same)
    | discard target => exact fun same => other (congrArg some same)
    | freeze source target => exact fun same => other (congrArg some same.1)
    | _ => exact id
  have uncalled (m : Member) : m.call? slot step = none := by
    cases called : m.call? slot step with
    | none => rfl
    | some given =>
      obtain rfl := Member.eq_call_of_call? called
      exact absurd (by cases m <;> rfl) other
  rw [find?_step kept, added_of_uncalled uncalled, map_extendedBy_nil]

theorem outcome_map_lift {α β : Type} (f : α → β) (outcome : Except Fault α) :
    (f <$> Observed.lift outcome).outcome = f <$> outcome := by
  cases outcome <;> rfl

theorem outcome_call (held : s.find? slot = some d) (m : Member) {given : Value}
    {items : List Value} (gives : given.Gives items) :
    (s.step (m.call slot given)).1.outcome = (fun _ => Reply.done) <$>
      if d.frozen then .error (.frozen d.tableName) else firstFault m.read items := by
  have result : (d.add m items).2 =
      if d.frozen then .error (.frozen d.tableName) else firstFault m.read items := by
    unfold Descriptor.add
    split
    · rfl
    · rw [readUpToFault_eq]
  rw [step_call, extend, held, gives.oneOrMore_eq]
  exact (outcome_map_lift _ _).trans (congrArg _ result)

theorem keeps_of_forall (h : ∀ step ∈ steps, ∀ s : Session, ¬ s.Replaces slot step) :
    s.Keeps slot steps := by
  induction steps generalizing s with
  | nil => trivial
  | cons step steps ih =>
    exact ⟨h step List.mem_cons_self s, ih fun later mem => h later (List.mem_cons_of_mem step mem)⟩

theorem not_replaces_call (s : Session) (slot target : String) (m : Member) (given : Value) :
    ¬ s.Replaces slot (m.call target given) := by
  cases m <;> exact id

theorem find?_run_eq_of_calls {steps' : List Step} (kept : s.Keeps slot steps)
    (kept' : s.Keeps slot steps') (calls : ∀ m : Member,
      steps.filterMap (m.call? slot) = steps'.filterMap (m.call? slot)) :
    (s.run steps).2.find? slot = (s.run steps').2.find? slot := by
  have same : added slot steps = added slot steps' := by
    funext m
    rw [added, added, calls m]
  rw [find?_run_of_keeps kept, find?_run_of_keeps kept', same]

section OneByOne

variable {m : Member} {given : Value} {items singles : List Value}

def GiveEach (singles items : List Value) : Prop :=
  List.Forall₂ (fun single item => single.Gives [item]) singles items

theorem flatMap_beforeFault_each {β : Type} (read : Value → Except Fault β)
    (each : GiveEach singles items) :
    (singles.flatMap fun single => beforeFault read single.oneOrMore) =
      items.flatMap fun item => beforeFault read [item] := by
  induction each with
  | nil => rfl
  | cons gives _ ih => rw [List.flatMap_cons, List.flatMap_cons, ih, gives.oneOrMore_eq]

theorem find?_call_eq_find?_run (s : Session) (slot : String) (gives : given.Gives items)
    (each : GiveEach singles (readable m.read items)) (other : String) :
    (s.step (m.call slot given)).2.find? other =
      (s.run (singles.map (m.call slot))).2.find? other := by
  have keeps : s.Keeps other (singles.map (m.call slot)) := by
    refine keeps_of_forall fun step mem s => ?_
    obtain ⟨value, -, rfl⟩ := List.mem_map.1 mem
    exact not_replaces_call s other slot m value
  have same : added other [m.call slot given] = added other (singles.map (m.call slot)) := by
    funext m'
    have one := added_calls m m' slot other [given]
    rw [List.map_singleton] at one
    rw [one, added_calls]
    by_cases called : m' = m ∧ slot = other
    · obtain ⟨rfl, -⟩ := called
      rw [flatMap_beforeFault_each m'.read each, ← beforeFault_eq_flatMap]
      simp [gives.oneOrMore_eq]
    · rw [if_neg called, if_neg called]
  rw [find?_call, find?_run_of_keeps keeps, same]

end OneByOne

structure GoesOn (s : Session) (slot : String) (d : Descriptor) : Prop where
  /-- A frozen descriptor takes nothing, whatever it is given. -/
  refused : d.frozen = true → ∀ (m : Member) (given : Value),
    (s.step (m.call slot given)).1.outcome = .error (.frozen d.tableName)
  unchanged : d.frozen = true → ∀ later, s.Keeps slot later →
    (s.run later).2.find? slot = some d
  /-- A call on one that is not frozen adds what is given to it, to one of the lists alone. -/
  extended : d.frozen = false → ∀ (m : Member) (given : Value) (items : List Value),
    given.Gives items → ∃ d', (s.step (m.call slot given)).2.find? slot = some d' ∧
      m.held d' = m.held d ++ beforeFault m.read items ∧
      ∀ other : Member, other ≠ m → other.held d' = other.held d
  /-- Such a call ends in the fault of the first item that cannot be read. -/
  answered : d.frozen = false → ∀ (m : Member) (given : Value) (items : List Value),
    given.Gives items → (s.step (m.call slot given)).1.outcome =
      (fun _ => Reply.done) <$> firstFault m.read items
  /-- Reading, and whatever is done in other slots, does not show. -/
  untouched : ∀ step, step.target? ≠ some slot → (s.step step).2.find? slot = some d
  /-- A call with several items is the calls with each of those before the first fault. -/
  oneByOne : ∀ (m : Member) (given : Value) (items singles : List Value), given.Gives items →
    GiveEach singles (readable m.read items) → ∀ other,
      (s.step (m.call slot given)).2.find? other =
        (s.run (singles.map (m.call slot))).2.find? other
  /-- Only the order among calls of one kind matters. -/
  interleaved : ∀ steps steps', s.Keeps slot steps → s.Keeps slot steps' →
    (∀ m : Member, steps.filterMap (m.call? slot) = steps'.filterMap (m.call? slot)) →
    (s.run steps).2.find? slot = (s.run steps').2.find? slot

theorem goesOn_of_find? (held : s.find? slot = some d) : s.GoesOn slot d where
  refused := by
    intro frozen m given
    rw [outcome_call held m given.gives_oneOrMore, if_pos frozen]
    rfl
  unchanged := by
    intro frozen later kept
    rw [find?_run_of_keeps kept, held, Option.map_some, Descriptor.extendedBy_of_frozen _ frozen]
  extended := by
    intro unfrozen m given items gives
    refine ⟨_, (find?_call s m slot slot given).trans (congrArg _ held), ?_, fun other differ => ?_⟩
    all_goals rw [Descriptor.held_extendedBy _ unfrozen]
    · have one := added_calls m m slot slot [given]
      rw [if_pos ⟨rfl, rfl⟩] at one
      simpa [gives.oneOrMore_eq] using one
    · have none := added_calls m other slot slot [given]
      rw [if_neg fun both => differ both.1] at none
      simpa using none
  answered := by
    intro unfrozen m given items gives
    rw [outcome_call held m gives, if_neg (by simp [unfrozen])]
  untouched := by
    intro step other
    rw [find?_step_of_target_ne other, held]
  oneByOne := by
    intro m given items singles gives each other
    exact find?_call_eq_find?_run s slot gives each other
  interleaved := by
    intro steps steps' kept kept' calls
    exact find?_run_eq_of_calls kept kept' calls

/-- Every descriptor that a session has come to hold is what it was built from and what was added to
it since, and the session goes on from it as from any builder. -/
theorem builder_history (s₀ : Session) (fresh : s₀.slots = []) (steps : List Step) (slot : String)
    (d : Descriptor) (held : (s₀.run steps).2.find? slot = some d) :
    s₀.IsHistory steps slot d ∧ (s₀.run steps).2.GoesOn slot d :=
  ⟨isHistory_of_find? fresh held, goesOn_of_find? held⟩

def bookSteps : List Step :=
  [.create "book"
      { tableName := .text "Book", columns := .list [.record [("name", .text "id")]] } (some {}),
   .addColumns "book"
      (.list [.record [("name", .text "title")], .record [("name", .text "author")], .record [],
        .record [("name", .text "lost")]]),
   .addConstraints "book"
      (.record [("localColumn", .text "author"), ("referencedTable", .text "People"),
        ("referencedColumn", .text "id")]),
   .freeze "book" "copy",
   .addColumns "book" (.record [("name", .text "year")]),
   .addColumns "book" (.row [.record [("name", .text "pages")]]),
   .addColumns "copy" (.list [])]

def bookTable (names : List String) : Descriptor where
  tableName := .text "Book"
  aliasName := "book"
  columns := names.map fun name => { name := .text name }
  constraints :=
    [{ localColumn := .text "author"
       referencedTable := .text "People"
       referencedColumn := .text "id" }]
  settings := {}

def bookDraft : Descriptor :=
  bookTable ["id", "title", "author", "year", "pages"]

def bookCopy : Descriptor :=
  { bookTable ["id", "title", "author"] with frozen := true }

theorem builder_history_of_bookSteps :
    ((({} : Session).run bookSteps).2.find? "book" = some bookDraft ∧
        ({} : Session).IsHistory bookSteps "book" bookDraft ∧
        (({} : Session).run bookSteps).2.GoesOn "book" bookDraft) ∧
      (({} : Session).run bookSteps).2.find? "copy" = some bookCopy ∧
        ({} : Session).IsHistory bookSteps "copy" bookCopy ∧
        (({} : Session).run bookSteps).2.GoesOn "copy" bookCopy := by
  have draft : (({} : Session).run bookSteps).2.find? "book" = some bookDraft := by
    rfl
  have copy : (({} : Session).run bookSteps).2.find? "copy" = some bookCopy := by
    rfl
  exact ⟨⟨draft, builder_history {} rfl bookSteps "book" bookDraft draft⟩,
    copy, builder_history {} rfl bookSteps "copy" bookCopy copy⟩

end Session

end TableSchema
