import TableSchema.Proofs.Descriptor.Extension
import TableSchema.Session

/-!
The history of a slot: what has last been put into it, and the parts that the steps since then have
added. No other step leaves a trace on what the slot holds.
-/

namespace TableSchema

namespace Value

/-- What is given to one call: the items of a list or of a row, and any other value by itself. -/
inductive Gives : Value → List Value → Prop
  | list (items : List Value) : Gives (.list items) items
  | row (items : List Value) : Gives (.row items) items
  | single {value : Value} (list : ∀ items, value ≠ .list items)
      (row : ∀ items, value ≠ .row items) : Gives value [value]

theorem gives_oneOrMore (given : Value) : given.Gives given.oneOrMore := by
  cases given with
  | list items => exact .list items
  | row items => exact .row items
  | _ => exact .single (by simp) (by simp)

theorem Gives.oneOrMore_eq {given : Value} {items : List Value} (h : given.Gives items) :
    given.oneOrMore = items := by
  cases h with
  | list => rfl
  | row => rfl
  | single list row =>
    cases given with
    | list items => exact absurd rfl (list items)
    | row items => exact absurd rfl (row items)
    | _ => rfl

/-- What a field of a draft holds: nothing where it does not count as true, and else the items of a
list or of a row, the keys of a record or the characters of a text. -/
inductive Enumerates : Value → List Value → Prop
  | nothing {value : Value} (h : value.isTrue = false) : Enumerates value []
  | list (items : List Value) : Enumerates (.list items) items
  | row (items : List Value) : Enumerates (.row items) items
  | record (entries : List (String × Value)) :
      Enumerates (.record entries) (entries.map fun entry => .text entry.1)
  | text (s : String) : Enumerates (.text s) (s.toList.map fun c => .text (String.singleton c))

theorem enumerates_of_elements {given : Value} {items : List Value}
    (h : (given.orElse (.list [])).elements = .ok items) : given.Enumerates items := by
  cases counts : given.isTrue with
  | false =>
    rw [orElse, counts, if_neg Bool.false_ne_true] at h
    obtain rfl := Except.ok.inj h
    exact .nothing counts
  | true =>
    rw [orElse, counts, if_pos rfl] at h
    cases given with
    | list entries =>
      obtain rfl := Except.ok.inj h
      exact .list _
    | row entries =>
      obtain rfl := Except.ok.inj h
      exact .row _
    | record entries =>
      obtain rfl := Except.ok.inj h
      exact .record entries
    | text s =>
      obtain rfl := Except.ok.inj h
      exact .text s
    | _ => simp [elements, refuse] at h

end Value

namespace Member

def call : Member → String → Value → Step
  | column, slot, given => .addColumns slot given
  | constraint, slot, given => .addConstraints slot given

/-- What a step gives to the slot as members of the kind. -/
def call? (slot : String) : Member → Step → Option Value
  | column, .addColumns target given => if target = slot then some given else none
  | constraint, .addConstraints target given => if target = slot then some given else none
  | _, _ => none

variable {m : Member} {slot : String} {step : Step} {given : Value}

theorem call?_call (m m' : Member) (target slot : String) (given : Value) :
    m'.call? slot (m.call target given) =
      if m' = m ∧ target = slot then some given else none := by
  cases m <;> cases m' <;> simp [call, call?]

theorem eq_call_of_call? (h : m.call? slot step = some given) : step = m.call slot given := by
  unfold call? at h
  split at h
  next => simp_all [call]
  next => simp_all [call]
  next => simp at h

end Member

/-- The parts are what the items of a draft are read as, all of them. -/
def Coerces {α : Type} (read : Value → Except Fault α) (given : Value) (parts : List α) : Prop :=
  ∃ items, given.Enumerates items ∧ items.map read = parts.map .ok

theorem coerces_of_readAll {α : Type} {read : Value → Except Fault α} {given : Value}
    {parts : List α} (h : Descriptor.readAll read (given.orElse (.list [])) = .ok parts) :
    Coerces read given parts := by
  obtain ⟨items, consists, parts⟩ := Descriptor.readAll_eq_ok_iff.1 h
  exact ⟨items, Value.enumerates_of_elements consists, parts⟩

/-- The parts of a kind that steps add to a slot, in their order. Each call on the slot adds what
the items given to it are read as, up to the first that cannot be read. -/
inductive Adds (m : Member) (slot : String) : List Step → List m.Item → Prop
  | nil : Adds m slot [] []
  | call {given : Value} {items : List Value} {steps : List Step} {parts : List m.Item}
      (gives : given.Gives items) (later : Adds m slot steps parts) :
      Adds m slot (m.call slot given :: steps) (beforeFault m.read items ++ parts)
  | other {step : Step} {steps : List Step} {parts : List m.Item}
      (uncalled : ∀ given, step ≠ m.call slot given) (later : Adds m slot steps parts) :
      Adds m slot (step :: steps) parts

namespace Session

variable {s : Session} {slot : String} {step : Step} {steps : List Step} {d : Descriptor}

/-- The step puts something else into the slot, or empties it. -/
def Replaces (s : Session) (slot : String) : Step → Prop
  | .create target .. => target = slot
  | .discard target => target = slot
  | .freeze source target => target = slot ∧ (s.find? source).isSome
  | _ => False

def Keeps (s : Session) (slot : String) : List Step → Prop
  | [] => True
  | step :: steps => ¬ s.Replaces slot step ∧ (s.step step).2.Keeps slot steps

def added (slot : String) (steps : List Step) (m : Member) : List m.Item :=
  (steps.filterMap (m.call? slot)).flatMap fun given => beforeFault m.read given.oneOrMore

theorem added_cons (slot : String) (step : Step) (steps : List Step) (m : Member) :
    added slot (step :: steps) m = added slot [step] m ++ added slot steps m := by
  unfold added
  rw [← List.flatMap_append, ← List.filterMap_append, List.singleton_append]

theorem added_calls (m m' : Member) (target slot : String) (values : List Value) :
    added slot (values.map (m.call target)) m' =
      if m' = m ∧ target = slot then
        values.flatMap fun given => beforeFault m'.read given.oneOrMore
      else [] := by
  induction values with
  | nil => simp [added]
  | cons given values ih =>
    rw [List.map_cons, added_cons, ih, added, List.filterMap_cons, Member.call?_call]
    by_cases h : m' = m ∧ target = slot
    · simp [h]
    · simp [h]

theorem added_of_uncalled (uncalled : ∀ m : Member, m.call? slot step = none) :
    added slot [step] = fun _ => [] := by
  funext m
  simp [added, uncalled m]

theorem adds_added (m : Member) (slot : String) (steps : List Step) :
    Adds m slot steps (added slot steps m) := by
  induction steps with
  | nil => exact .nil
  | cons step steps ih =>
    rw [added_cons, added, List.filterMap_cons]
    cases called : m.call? slot step with
    | none =>
      refine .other (fun given same => ?_) ih
      rw [same, Member.call?_call, if_pos ⟨rfl, rfl⟩] at called
      simp at called
    | some given =>
      obtain rfl := Member.eq_call_of_call? called
      have gives := given.gives_oneOrMore
      have one := Adds.call gives ih
      simpa using one

theorem map_extendedBy_nil (held : Option Descriptor) :
    held.map (fun d => d.extendedBy fun _ => []) = held := by
  simp only [Descriptor.extendedBy_nil, Option.map_id']

theorem find?_settingsOr (s : Session) (given : Option Settings) :
    (s.settingsOr given).2.find? = s.find? := by
  cases given <;> rfl

theorem find?_extend (s : Session) (target slot : String)
    (change : Descriptor → Descriptor × Except Fault Unit) :
    (s.extend target change).2.find? slot =
      if target = slot then (s.find? slot).map (fun d => (change d).1) else s.find? slot := by
  unfold extend
  by_cases same : target = slot
  · subst same
    rw [if_pos rfl]
    cases held : s.find? target with
    | none => exact held
    | some d => simp [find?_put]
  · rw [if_neg same]
    cases s.find? target with
    | none => rfl
    | some d => rw [find?_put, if_neg (Ne.symm same)]

theorem find?_create_of_ne {target : String} (other : slot ≠ target) (draft : Draft)
    (given : Option Settings) : (s.create target draft given).2.find? slot = s.find? slot := by
  have erased : (s.erase target).find? slot = s.find? slot := by rw [find?_erase, if_neg other]
  unfold create
  dsimp only
  cases Descriptor.ofDraft ((s.erase target).settingsOr given).1 draft with
  | error fault => exact erased
  | ok d =>
    dsimp only
    rw [find?_put, if_neg other, find?_settingsOr, erased]

theorem find?_freeze_of_not_replaces {source target : String}
    (kept : ¬ s.Replaces slot (.freeze source target)) :
    (s.freeze source target).2.find? slot = s.find? slot := by
  unfold freeze
  cases held : s.find? source with
  | none => rfl
  | some d =>
    have other : slot ≠ target := by
      rintro rfl
      exact kept ⟨rfl, by rw [held]; rfl⟩
    dsimp only
    cases d.freeze.outcome with
    | error fault => exact (find?_erase s target slot).trans (if_neg other)
    | ok copy => exact (find?_put s target slot copy).trans (if_neg other)

theorem step_call (s : Session) (m : Member) (target : String) (given : Value) :
    s.step (m.call target given) = s.extend target (·.add m given.oneOrMore) := by
  cases m <;> rfl

theorem find?_call (s : Session) (m : Member) (target slot : String) (given : Value) :
    (s.step (m.call target given)).2.find? slot =
      (s.find? slot).map fun d => d.extendedBy (added slot [m.call target given]) := by
  have calls (m' : Member) : added slot [m.call target given] m' =
      if m' = m ∧ target = slot then beforeFault m'.read given.oneOrMore else [] := by
    have one := added_calls m m' target slot [given]
    simpa using one
  rw [step_call, find?_extend]
  by_cases same : target = slot
  · have own : added slot [m.call target given] m = beforeFault m.read given.oneOrMore := by
      rw [calls, if_pos ⟨rfl, same⟩]
    have others (other : Member) (differ : other ≠ m) :
        added slot [m.call target given] other = [] := by
      rw [calls, if_neg fun both => differ both.1]
    simp only [if_pos same, Descriptor.add_eq _ m _ own others]
  · have nothing : added slot [m.call target given] = fun _ => [] := by
      funext m'
      rw [calls, if_neg fun both => same both.2]
    rw [if_neg same, nothing, map_extendedBy_nil]

/-- A step that does not replace what a slot holds extends it by what the step adds to that slot. -/
theorem find?_step (kept : ¬ s.Replaces slot step) :
    (s.step step).2.find? slot =
      (s.find? slot).map fun d => d.extendedBy (added slot [step]) := by
  have nothing (uncalled : ∀ m : Member, m.call? slot step = none) :
      s.find? slot = (s.find? slot).map fun d => d.extendedBy (added slot [step]) := by
    rw [added_of_uncalled uncalled, map_extendedBy_nil]
  cases step with
  | create target draft given =>
    have other : slot ≠ target := fun same => kept same.symm
    exact (find?_create_of_ne other draft given).trans (nothing fun m => by cases m <;> rfl)
  | discard target =>
    have other : slot ≠ target := fun same => kept same.symm
    have erased : (s.erase target).find? slot = s.find? slot := by rw [find?_erase, if_neg other]
    exact erased.trans (nothing fun m => by cases m <;> rfl)
  | freeze source target =>
    exact (find?_freeze_of_not_replaces kept).trans (nothing fun m => by cases m <;> rfl)
  | addColumns target columns => exact find?_call s .column target slot columns
  | addConstraints target constraints => exact find?_call s .constraint target slot constraints
  | setUpLogging given =>
    have captured : (s.settingsOr given).2.find? slot = s.find? slot := by
      rw [find?_settingsOr]
    exact captured.trans (nothing fun m => by cases m <;> rfl)
  | _ => exact nothing fun m => by cases m <;> rfl

theorem find?_run_of_keeps (kept : s.Keeps slot steps) :
    (s.run steps).2.find? slot =
      (s.find? slot).map fun d => d.extendedBy (added slot steps) := by
  induction steps generalizing s with
  | nil => exact (map_extendedBy_nil _).symm
  | cons step steps ih =>
    have together : added slot (step :: steps) = fun m => added slot [step] m ++ added slot steps m :=
      funext (added_cons slot step steps)
    rw [run, together]
    dsimp only
    rw [ih kept.2, find?_step kept.1, Option.map_map]
    congr 1
    funext d
    exact Descriptor.extendedBy_extendedBy ..

theorem run_append (s : Session) (earlier later : List Step) :
    (s.run (earlier ++ later)).2 = ((s.run earlier).2.run later).2 := by
  induction earlier generalizing s with
  | nil => rfl
  | cons step earlier ih => exact ih (s.step step).2

theorem keeps_or_exists_last (s : Session) (slot : String) (steps : List Step) :
    s.Keeps slot steps ∨ ∃ before made after, steps = before ++ made :: after ∧
      (s.run before).2.Replaces slot made ∧
      ((s.run before).2.step made).2.Keeps slot after := by
  induction steps generalizing s with
  | nil => exact .inl trivial
  | cons step steps ih =>
    rcases ih (s.step step).2 with kept | ⟨before, made, after, rfl, replaces, kept⟩
    · by_cases replaces : s.Replaces slot step
      · exact .inr ⟨[], step, steps, rfl, replaces, kept⟩
      · exact .inl ⟨replaces, kept⟩
    · exact .inr ⟨step :: before, made, after, rfl, replaces, kept⟩

theorem made_of_replaces (replaces : s.Replaces slot step)
    (held : (s.step step).2.find? slot = some d) :
    (∃ draft given settings, step = .create slot draft given ∧
      Descriptor.ofDraft settings draft = .ok d) ∨
    ∃ source original, step = .freeze source slot ∧ s.find? source = some original ∧
      original.freeze.outcome = .ok d := by
  cases step with
  | create target draft given =>
    obtain rfl : target = slot := replaces
    have answer : (s.create target draft given).2.find? target = some d := held
    unfold create at answer
    dsimp only at answer
    cases built : Descriptor.ofDraft ((s.erase target).settingsOr given).1 draft with
    | error fault =>
      rw [built] at answer
      have erased := (find?_erase s target target).symm.trans answer
      simp at erased
    | ok d' =>
      rw [built] at answer
      have put := (find?_put _ target target d').symm.trans answer
      obtain rfl : d' = d := by simpa using put
      exact .inl ⟨draft, given, _, rfl, built⟩
  | discard target =>
    obtain rfl : target = slot := replaces
    have erased := (find?_erase s target target).symm.trans held
    simp at erased
  | freeze source target =>
    obtain ⟨rfl, present⟩ := replaces
    have answer : (s.freeze source target).2.find? target = some d := held
    unfold freeze at answer
    cases original : s.find? source with
    | none => simp [original] at present
    | some d' =>
      rw [original] at answer
      dsimp only at answer
      cases copy : d'.freeze.outcome with
      | error fault =>
        rw [copy] at answer
        have erased := (find?_erase s target target).symm.trans answer
        simp at erased
      | ok d'' =>
        rw [copy] at answer
        have put := (find?_put s target target d'').symm.trans answer
        obtain rfl : d'' = d := by simpa using put
        exact .inr ⟨source, d', rfl, original, copy⟩
  | _ => exact absurd replaces id

inductive Origin (s : Session) (slot : String) : Step → Descriptor → Prop
  | built {draft : Draft} {given : Option Settings} {d : Descriptor} (unfrozen : d.frozen = false)
      (columns : Coerces Column.ofValue draft.columns d.columns)
      (constraints : Coerces ForeignKey.ofValue draft.constraints d.constraints) :
      Origin s slot (.create slot draft given) d
  | copied {source : String} {original d : Descriptor} (held : s.find? source = some original)
      (frozen : d.frozen = true) (columns : d.columns = original.columns)
      (constraints : d.constraints = original.constraints) : Origin s slot (.freeze source slot) d

theorem origin_of_replaces (replaces : s.Replaces slot step)
    (held : (s.step step).2.find? slot = some d) : s.Origin slot step d := by
  rcases made_of_replaces replaces held with
    ⟨draft, given, settings, rfl, built⟩ | ⟨source, original, rfl, present, copied⟩
  · obtain ⟨unfrozen, -, -, columns, constraints⟩ := Descriptor.ofDraft_eq_ok built
    exact .built unfrozen (coerces_of_readAll columns) (coerces_of_readAll constraints)
  · obtain ⟨issues, aliasName, -, -, -, rfl⟩ := Descriptor.freeze_eq_ok copied
    exact .copied present rfl rfl rfl

end Session

end TableSchema
