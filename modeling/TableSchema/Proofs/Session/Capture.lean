import Mathlib.Data.List.Induction
import TableSchema.Proofs.Session.Call

/-!
Where settings come from. They are read from the environment when a call first asks for them, and
whoever asks after that is given the same ones, until they are cleared.
-/

namespace TableSchema

namespace Call

def environment? : Call → Option Environment
  | .step (.setEnvironment environment) => some environment
  | _ => none

def isClearing : Call → Bool
  | .step .clearSettings => true
  | _ => false

/-- The call needs settings and is given none, so that it takes those in force. One that ends in a
fault before it comes to its settings takes none, nor does an examination of a filter that finds
nothing. -/
def asksSettings : Call → Bool
  | .step .currentSettings => true
  | .step (.setUpLogging given) => given.isNone
  | .step (.create _ draft given) => given.isNone && (Descriptor.ofDraft {} draft).isOk
  | .validate columns constraints given =>
    given.isNone && (Validation.issues columns constraints).isOk
  | .checkFilter filter given =>
    given.isNone && !(Validation.series (Validation.checkFilter {} filter)).isEmpty
  | _ => false

/-- The call with the settings given to it that it would otherwise ask for. -/
def giving (settings : Settings) : Call → Call
  | .step (.setUpLogging given) => .step (.setUpLogging (given.or (some settings)))
  | .step (.create slot draft given) => .step (.create slot draft (given.or (some settings)))
  | .validate columns constraints given => .validate columns constraints (given.or (some settings))
  | .checkFilter filter given => .checkFilter filter (given.or (some settings))
  | call => call

end Call

theorem Except.isOk_map {α β : Type} (f : α → β) (x : Except Fault α) :
    (f <$> x).isOk = x.isOk := by
  cases x <;> rfl

theorem Descriptor.isOk_ofDraft (settings settings' : Settings) (draft : Draft) :
    (ofDraft settings draft).isOk = (ofDraft settings' draft).isOk := by
  rw [ofDraft_settings settings' settings, Except.isOk_map]

theorem Validation.series_checkFilter (settings settings' : Settings) (filter : Value) :
    series (checkFilter settings filter) = series (checkFilter settings' filter) := by
  unfold checkFilter
  cases Filter.ofValue filter with
  | error fault => rfl
  | ok f =>
    rw [Observed.lift_ok_bind, Observed.lift_ok_bind]
    cases filterIssues f <;> rfl

namespace Session

variable {s : Session} {c : Call}

section Source

theorem captured_create (s : Session) (slot : String) (draft : Draft) (given : Option Settings) :
    (s.create slot draft given).2.captured =
      if given.isNone && (Descriptor.ofDraft {} draft).isOk then some s.settings
      else s.captured := by
  rw [Descriptor.isOk_ofDraft {} ((s.erase slot).settingsOr given).1]
  unfold create
  dsimp only
  cases Descriptor.ofDraft ((s.erase slot).settingsOr given).1 draft with
  | error fault => cases given <;> rfl
  | ok d => cases given <;> rfl

theorem captured_call (s : Session) (c : Call) :
    (s.call c).2.captured =
      if c.isClearing then none else if c.asksSettings then some s.settings else s.captured := by
  cases c with
  | step step =>
    cases step with
    | create slot draft given => exact captured_create s slot draft given
    | setUpLogging given => cases given <;> rfl
    | freeze source target => exact (sameSource_freeze s source target).captured
    | addColumns slot columns => exact (sameSource_extend s slot _).captured
    | addConstraints slot constraints => exact (sameSource_extend s slot _).captured
    | _ => rfl
  | validate columns constraints given =>
    unfold call Call.asksSettings
    dsimp only
    rw [Validation.validate_outcome]
    cases given with
    | none => exact apply_ite captured _ s.capture s
    | some settings => exact congrArg captured (ite_self s)
  | checkFilter filter given =>
    unfold call Call.asksSettings
    dsimp only
    rw [Validation.series_checkFilter _ {}]
    cases given with
    | none =>
      by_cases silent : Validation.series (Validation.checkFilter {} filter) = []
      · simp [silent, Call.isClearing]
      · simp [silent, Call.isClearing, settingsOr, capture]
    | some settings => exact congrArg captured (ite_self s)
  | verify verifier sql => rfl

theorem environment_call (s : Session) (c : Call) :
    (s.call c).2.environment = c.environment?.getD s.environment := by
  cases c with
  | step step =>
    cases step with
    | create slot draft given => exact (source_create s slot draft given).1
    | setUpLogging given => exact environment_settingsOr s given
    | freeze source target => exact (sameSource_freeze s source target).environment
    | addColumns slot columns => exact (sameSource_extend s slot _).environment
    | addConstraints slot constraints => exact (sameSource_extend s slot _).environment
    | _ => rfl
  | validate columns constraints given =>
    unfold call
    dsimp only
    split
    · exact environment_settingsOr s given
    · rfl
  | checkFilter filter given =>
    unfold call
    dsimp only
    split
    · rfl
    · exact environment_settingsOr s given
  | verify verifier sql => rfl

theorem calls_append (s : Session) (earlier later : List Call) :
    (s.calls (earlier ++ later)).2 = ((s.calls earlier).2.calls later).2 := by
  induction earlier generalizing s with
  | nil => rfl
  | cons c earlier ih => exact ih (s.call c).2

theorem calls_concat (s : Session) (earlier : List Call) (c : Call) :
    (s.calls (earlier ++ [c])).2 = ((s.calls earlier).2.call c).2 :=
  s.calls_append earlier [c]

def environmentAfter (environment : Environment) (calls : List Call) : Environment :=
  (calls.filterMap Call.environment?).getLast?.getD environment

theorem environment_calls (s : Session) (calls : List Call) :
    (s.calls calls).2.environment = environmentAfter s.environment calls := by
  induction calls using List.reverseRecOn with
  | nil => rfl
  | append_singleton calls c ih =>
    rw [calls_concat, environment_call, ih, environmentAfter, environmentAfter,
      List.filterMap_append]
    cases set : c.environment? with
    | none => simp [set]
    | some environment => simp [set]

end Source

section FirstReading

variable {calls earlier later : List Call} {first : Call}

/-- Whatever settings were asked for among the calls, they have been cleared since. -/
def IsUnread (calls : List Call) : Prop :=
  ∀ before c after, calls = before ++ c :: after → c.asksSettings = true →
    ∃ x ∈ after, x.isClearing = true

/-- The first call since the last clearing that asks for settings. -/
structure FirstAsks (calls earlier : List Call) (first : Call) (later : List Call) : Prop where
  split : calls = earlier ++ first :: later
  asks : first.asksSettings = true
  unread : IsUnread earlier
  uncleared : ∀ x ∈ later, x.isClearing = false

theorem isUnread_nil : IsUnread [] := by
  intro before c after split
  simp at split

theorem concat_eq_append_cons {calls before after : List Call} {c x : Call}
    (split : calls ++ [c] = before ++ x :: after) :
    (calls = before ∧ c = x ∧ after = []) ∨
      ∃ rest, after = rest ++ [c] ∧ calls = before ++ x :: rest := by
  rcases List.eq_nil_or_concat after with rfl | ⟨rest, last, rfl⟩
  · obtain ⟨same, last⟩ := List.append_inj' split rfl
    exact .inl ⟨same, (List.cons.inj last).1, rfl⟩
  · rw [List.concat_eq_append, ← List.cons_append, ← List.append_assoc] at split
    obtain ⟨same, last⟩ := List.append_inj' split rfl
    obtain rfl := (List.cons.inj last).1
    exact .inr ⟨rest, List.concat_eq_append, same⟩

theorem isUnread_concat_of_isClearing (calls : List Call) (clears : c.isClearing = true)
    (silent : c.asksSettings = false) : IsUnread (calls ++ [c]) := by
  intro before x after split asks
  rcases concat_eq_append_cons split with ⟨-, rfl, -⟩ | ⟨rest, rfl, -⟩
  · rw [silent] at asks
    exact absurd asks (by decide)
  · exact ⟨c, List.mem_append_right rest List.mem_cons_self, clears⟩

theorem IsUnread.concat (unread : IsUnread calls) (silent : c.asksSettings = false) :
    IsUnread (calls ++ [c]) := by
  intro before x after split asks
  rcases concat_eq_append_cons split with ⟨-, rfl, -⟩ | ⟨rest, rfl, same⟩
  · rw [silent] at asks
    exact absurd asks (by decide)
  · obtain ⟨y, mem, clears⟩ := unread before x rest same asks
    exact ⟨y, List.mem_append_left [c] mem, clears⟩

theorem FirstAsks.of_unread (unread : IsUnread calls) (asks : c.asksSettings = true) :
    FirstAsks (calls ++ [c]) calls c [] :=
  ⟨rfl, asks, unread, by simp⟩

theorem FirstAsks.concat (h : FirstAsks calls earlier first later)
    (uncleared : c.isClearing = false) :
    FirstAsks (calls ++ [c]) earlier first (later ++ [c]) where
  split := by rw [h.split, List.append_assoc, List.cons_append]
  asks := h.asks
  unread := h.unread
  uncleared := by
    intro x mem
    rcases List.mem_append.1 mem with mem | mem
    · exact h.uncleared x mem
    · obtain rfl := List.mem_singleton.1 mem
      exact uncleared

theorem asksSettings_of_isClearing (clears : c.isClearing = true) : c.asksSettings = false := by
  cases c with
  | step step =>
    cases step with
    | clearSettings => rfl
    | _ => exact absurd clears (by simp [Call.isClearing])
  | _ => exact absurd clears (by simp [Call.isClearing])

theorem captured_calls (fresh : s.captured = none) (calls : List Call) :
    ((s.calls calls).2.captured = none ∧ IsUnread calls) ∨
      ∃ earlier first later, FirstAsks calls earlier first later ∧
        (s.calls calls).2.captured =
          some (Settings.ofEnvironment (environmentAfter s.environment earlier)) := by
  induction calls using List.reverseRecOn with
  | nil => exact .inl ⟨fresh, isUnread_nil⟩
  | append_singleton calls c ih =>
    rw [calls_concat, captured_call]
    cases clears : c.isClearing with
    | true =>
      rw [if_pos rfl]
      have silent := asksSettings_of_isClearing clears
      exact .inl ⟨rfl, isUnread_concat_of_isClearing calls clears silent⟩
    | false =>
      rw [if_neg Bool.false_ne_true]
      rcases ih with ⟨none, unread⟩ | ⟨earlier, first, later, reading, captured⟩
      · cases asks : c.asksSettings with
        | true =>
          refine .inr ⟨calls, c, [], .of_unread unread asks, ?_⟩
          rw [if_pos rfl, settings, none, Option.getD_none, environment_calls]
        | false =>
          rw [if_neg Bool.false_ne_true]
          exact .inl ⟨none, unread.concat asks⟩
      · refine .inr ⟨earlier, first, later ++ [c], reading.concat clears, ?_⟩
        rw [settings, captured, Option.getD_some, ite_self]

/-- A call that asks for settings is given those read from the environment as it was when they were
first asked for. -/
theorem settings_of_asks (fresh : s.captured = none) (calls : List Call)
    (asks : c.asksSettings = true) :
    ∃ earlier first later, FirstAsks (calls ++ [c]) earlier first later ∧
      (s.calls calls).2.settings =
        Settings.ofEnvironment (environmentAfter s.environment earlier) := by
  rcases captured_calls fresh calls with ⟨none, unread⟩ | ⟨earlier, first, later, reading, captured⟩
  · refine ⟨calls, c, [], .of_unread unread asks, ?_⟩
    rw [settings, none, Option.getD_none, environment_calls]
  · have uncleared : c.isClearing = false := by
      by_contra clears
      rw [asksSettings_of_isClearing (by simpa using clears)] at asks
      exact absurd asks (by decide)
    refine ⟨earlier, first, later ++ [c], reading.concat uncleared, ?_⟩
    rw [settings, captured, Option.getD_some]

end FirstReading

section Asking

structure Takes (s : Session) (c : Call) (settings : Settings) : Prop where
  shown : c = .step .currentSettings → (s.call c).1 = pure (.reply (.settings settings))
  built : ∀ slot draft, c = .step (.create slot draft none) →
    ∃ d, (s.call c).2.find? slot = some d ∧ d.settings = settings
  /-- The answer is the one that it gives if it is handed these settings. -/
  answered : (s.call c).1 = (s.call (c.giving settings)).1

theorem find?_create_of_isOk (s : Session) (slot : String) (given : Option Settings)
    {draft : Draft} (ok : (Descriptor.ofDraft {} draft).isOk = true) :
    ∃ d, (s.create slot draft given).2.find? slot = some d ∧
      d.settings = (s.settingsOr given).1 := by
  rw [Descriptor.isOk_ofDraft {} (s.settingsOr given).1] at ok
  unfold create
  dsimp only
  rw [settingsOr_erase]
  cases built : Descriptor.ofDraft (s.settingsOr given).1 draft with
  | error fault =>
    rw [built] at ok
    exact absurd ok Bool.false_ne_true
  | ok d =>
    refine ⟨d, ?_, Descriptor.settings_of_ofDraft built⟩
    dsimp only
    rw [find?_put, if_pos rfl]

theorem answer_create (s : Session) (slot : String) (draft : Draft) :
    (s.create slot draft none).1 = (s.create slot draft (some s.settings)).1 := by
  have asked : ((s.erase slot).settingsOr none).1 = s.settings := rfl
  have given : ((s.erase slot).settingsOr (some s.settings)).1 = s.settings := rfl
  unfold create
  dsimp only
  rw [asked, given]
  cases Descriptor.ofDraft s.settings draft <;> rfl

theorem answer_giving (s : Session) (c : Call) :
    (s.call c).1 = (s.call (c.giving s.settings)).1 := by
  cases c with
  | step step =>
    cases step with
    | create slot draft given =>
      cases given with
      | none => exact congrArg (Answer.reply <$> ·) (answer_create s slot draft)
      | some settings => rfl
    | setUpLogging given => cases given <;> rfl
    | _ => rfl
  | validate columns constraints given => cases given <;> rfl
  | checkFilter filter given => cases given <;> rfl
  | verify verifier sql => rfl

theorem takes_of_asks (asks : c.asksSettings = true) : s.Takes c s.settings where
  shown := by
    rintro rfl
    rfl
  built := by
    rintro slot draft rfl
    exact s.find?_create_of_isOk slot none asks
  answered := s.answer_giving c

end Asking

end Session

end TableSchema
