import TableSchema.Proofs.Session.Capture

/-!
What becomes of settings once a descriptor is built with them. They stay with it and pass on to its
frozen copies, and nothing that happens to the environment afterwards reaches any of these.
-/

namespace TableSchema

namespace Call

def isAmbient : Call → Bool
  | .step (.setEnvironment _) => true
  | .step .clearSettings => true
  | _ => false

def subject? : Call → Option String
  | .step (.ask slot _) => some slot
  | .step (.freeze source _) => some source
  | .step (.addColumns slot _) => some slot
  | .step (.addConstraints slot _) => some slot
  | _ => none

end Call

namespace Session

variable {s s' : Session} {c : Call} {calls calls' : List Call} {slot target last : String}
  {d : Descriptor}

/-- The call puts something else into the slot, or empties it. -/
def Overwrites (s : Session) (slot : String) : Call → Prop
  | .step step => s.Replaces slot step
  | _ => False

/-- What the last slot holds behind the calls is what the first one held before them, or a frozen
copy of that, or a copy of such a copy. -/
inductive Descends : Session → String → List Call → String → Prop
  | itself (s : Session) (slot : String) : Descends s slot [] slot
  | kept {s : Session} {slot last : String} {c : Call} {calls : List Call}
      (spared : ¬ s.Overwrites slot c) (onward : Descends (s.call c).2 slot calls last) :
      Descends s slot (c :: calls) last
  | copied {s : Session} {slot target last : String} {calls : List Call}
      (present : (s.find? slot).isSome)
      (onward : Descends (s.freeze slot target).2 target calls last) :
      Descends s slot (.step (.freeze slot target) :: calls) last

/-- Whatever the calls freeze is there when they come to it. -/
def IsSourced (s : Session) : List Call → Prop
  | [] => True
  | c :: calls =>
    (∀ source target, c = .step (.freeze source target) → (s.find? source).isSome) ∧
      (s.call c).2.IsSourced calls

section Descent

theorem find?_call_of_isAmbient (ambient : c.isAmbient = true) :
    (s.call c).2.find? = s.find? := by
  cases c with
  | step step =>
    cases step with
    | setEnvironment environment => rfl
    | clearSettings => rfl
    | _ => exact absurd ambient Bool.false_ne_true
  | _ => exact absurd ambient Bool.false_ne_true

theorem find?_calls_of_isAmbient (ambient : ∀ c ∈ calls, c.isAmbient = true) :
    (s.calls calls).2.find? = s.find? := by
  induction calls generalizing s with
  | nil => rfl
  | cons c calls ih =>
    obtain ⟨first, others⟩ := List.forall_mem_cons.1 ambient
    exact (ih others).trans (find?_call_of_isAmbient first)

theorem exists_extension_of_call (slot : String) (c : Call) :
    ∃ added, ∀ s : Session, ¬ s.Overwrites slot c →
      (s.call c).2.find? slot = (s.find? slot).map fun d => d.extendedBy added := by
  cases c with
  | step step =>
    exact ⟨added slot [step], fun s spared => find?_step spared⟩
  | validate columns constraints given =>
    refine ⟨fun _ => [], fun s _ => ?_⟩
    rw [map_extendedBy_nil]
    unfold call
    dsimp only
    split
    · rw [find?_settingsOr]
    · rfl
  | checkFilter filter given =>
    refine ⟨fun _ => [], fun s _ => ?_⟩
    rw [map_extendedBy_nil]
    unfold call
    dsimp only
    split
    · rfl
    · rw [find?_settingsOr]
  | verify verifier sql => exact ⟨fun _ => [], fun s _ => (map_extendedBy_nil _).symm⟩

theorem exists_settings_of_spared (spared : ¬ s.Overwrites slot c)
    (held : (s.call c).2.find? slot = some d) :
    ∃ original, s.find? slot = some original ∧ d.settings = original.settings := by
  obtain ⟨added, extension⟩ := exists_extension_of_call slot c
  rw [extension s spared] at held
  obtain ⟨original, present, rfl⟩ := Option.map_eq_some_iff.1 held
  exact ⟨original, present, Descriptor.settings_extendedBy added original⟩

theorem exists_settings_of_copied (present : (s.find? slot).isSome)
    (held : (s.freeze slot target).2.find? target = some d) :
    ∃ original, s.find? slot = some original ∧ d.settings = original.settings := by
  have replaces : s.Replaces target (.freeze slot target) := ⟨rfl, present⟩
  rcases made_of_replaces replaces held with
    ⟨draft, given, settings, same, -⟩ | ⟨source, original, same, found, copied⟩
  · exact absurd same (by simp)
  · obtain ⟨rfl, -⟩ := Step.freeze.inj same
    obtain ⟨issues, aliasName, -, -, -, rfl⟩ := Descriptor.freeze_eq_ok copied
    exact ⟨original, found, rfl⟩

theorem Descends.inherited (descends : s.Descends slot calls last)
    (held : (s.calls calls).2.find? last = some d) :
    ∃ original, s.find? slot = some original ∧ d.settings = original.settings := by
  induction descends with
  | itself => exact ⟨d, held, rfl⟩
  | kept spared onward ih =>
    obtain ⟨next, found, same⟩ := ih held
    obtain ⟨original, present, given⟩ := exists_settings_of_spared spared found
    exact ⟨original, present, same.trans given⟩
  | copied present onward ih =>
    obtain ⟨next, found, same⟩ := ih held
    obtain ⟨original, present, given⟩ := exists_settings_of_copied present found
    exact ⟨original, present, same.trans given⟩

/-- What a slot holds behind some calls was there before them or is built by one of them, or it is
copied from such a descriptor. -/
theorem exists_descends (held : (s.calls calls).2.find? last = some d) :
    (∃ slot, (s.find? slot).isSome ∧ s.Descends slot calls last) ∨
      ∃ before slot draft given after,
        calls = before ++ .step (.create slot draft given) :: after ∧
          ((s.calls before).2.create slot draft given).2.Descends slot after last := by
  induction calls generalizing s with
  | nil => exact .inl ⟨last, Option.isSome_of_mem held, .itself s last⟩
  | cons c calls ih =>
    rcases ih held with ⟨slot, present, descends⟩ | ⟨before, slot, draft, given, after, rfl, made⟩
    · obtain ⟨next, found⟩ := Option.isSome_iff_exists.1 present
      by_cases overwrites : s.Overwrites slot c
      · cases c with
        | step step =>
          rcases made_of_replaces overwrites found with
            ⟨draft, given, -, rfl, -⟩ | ⟨source, original, rfl, original_held, -⟩
          · exact .inr ⟨[], slot, draft, given, calls, rfl, descends⟩
          · have source_held := Option.isSome_of_mem original_held
            exact .inl ⟨source, source_held, .copied source_held descends⟩
        | _ => exact absurd overwrites id
      · obtain ⟨original, original_held, -⟩ := exists_settings_of_spared overwrites found
        exact .inl ⟨slot, Option.isSome_of_mem original_held, .kept overwrites descends⟩
    · exact .inr ⟨c :: before, slot, draft, given, after, rfl, made⟩

end Descent

section Indifference

theorem find?_freeze_congr (present : (s.find? slot).isSome) (same : s'.find? slot = s.find? slot)
    (target : String) :
    (s'.freeze slot target).2.find? target = (s.freeze slot target).2.find? target := by
  obtain ⟨d, held⟩ := Option.isSome_iff_exists.1 present
  unfold freeze
  rw [same, held]
  dsimp only
  cases d.freeze.outcome with
  | error fault => rw [find?_erase, find?_erase, if_pos rfl, if_pos rfl]
  | ok copy => rw [find?_put, find?_put, if_pos rfl, if_pos rfl]

theorem not_overwrites_of_spared (spared : ¬ s.Overwrites slot c)
    (sourced : ∀ source target, c = .step (.freeze source target) → (s.find? source).isSome)
    (s' : Session) : ¬ s'.Overwrites slot c := by
  cases c with
  | step step =>
    cases step with
    | freeze source target => exact fun replaces => spared ⟨replaces.1, sourced source target rfl⟩
    | _ => exact spared
  | _ => exact spared

theorem find?_call_congr (spared : ¬ s.Overwrites slot c)
    (sourced : ∀ source target, c = .step (.freeze source target) → (s.find? source).isSome)
    (same : s'.find? slot = s.find? slot) :
    (s'.call c).2.find? slot = (s.call c).2.find? slot := by
  obtain ⟨added, extension⟩ := exists_extension_of_call slot c
  rw [extension s spared, extension s' (not_overwrites_of_spared spared sourced s'), same]

theorem Descends.find?_eq (descends : s.Descends slot calls last) (sourced : s.IsSourced calls)
    (same : s'.find? slot = s.find? slot)
    (others : calls'.filter (!·.isAmbient) = calls.filter (!·.isAmbient)) :
    (s'.calls calls').2.find? last = (s.calls calls).2.find? last := by
  induction calls generalizing s s' slot calls' with
  | nil =>
    cases descends
    have ambient : ∀ c ∈ calls', c.isAmbient = true := by
      simpa using others
    rw [find?_calls_of_isAmbient ambient]
    exact same
  | cons c calls ih =>
    obtain ⟨source_held, sourced⟩ := sourced
    cases ambient : c.isAmbient with
    | true =>
      rw [List.filter_cons_of_neg (by simp [ambient])] at others
      have unchanged := find?_call_of_isAmbient (s := s) ambient
      cases descends with
      | kept spared onward =>
        exact ih onward sourced (same.trans (congrFun unchanged slot).symm) others
      | copied present onward => exact absurd ambient Bool.false_ne_true
    | false =>
      rw [List.filter_cons_of_pos (by simp [ambient])] at others
      -- the other run comes to the same call behind ambient ones of its own
      obtain ⟨before, after, rfl, dropped, -, rest⟩ := List.filter_eq_cons_iff.1 others
      have before_ambient : ∀ x ∈ before, x.isAmbient = true := by
        simpa using dropped
      have here : (s'.calls before).2.find? slot = s.find? slot := by
        rw [find?_calls_of_isAmbient before_ambient, same]
      rw [calls_append]
      change (((s'.calls before).2.call c).2.calls after).2.find? last = _
      cases descends with
      | kept spared onward =>
        exact ih onward sourced (find?_call_congr spared source_held here) rest
      | copied present onward =>
        exact ih onward sourced (find?_freeze_congr present here _) rest

theorem answer_freeze_congr (same : s'.find? slot = s.find? slot) (target : String) :
    (s'.freeze slot target).1 = (s.freeze slot target).1 := by
  unfold freeze
  rw [same]
  cases s.find? slot <;> rfl

theorem answer_extend_congr (same : s'.find? slot = s.find? slot)
    (change : Descriptor → Descriptor × Except Fault Unit) :
    (s'.extend slot change).1 = (s.extend slot change).1 := by
  unfold extend
  rw [same]
  cases s.find? slot <;> rfl

theorem answer_congr (subject : c.subject? = some slot) (same : s'.find? slot = s.find? slot) :
    (s'.call c).1 = (s.call c).1 := by
  cases c with
  | step step =>
    cases step with
    | ask name query =>
      obtain rfl := Option.some.inj subject
      unfold call step require
      dsimp only
      rw [same]
    | freeze source target =>
      obtain rfl := Option.some.inj subject
      exact congrArg (Answer.reply <$> ·) (answer_freeze_congr same target)
    | addColumns name columns =>
      obtain rfl := Option.some.inj subject
      exact congrArg (Answer.reply <$> ·) (answer_extend_congr same _)
    | addConstraints name constraints =>
      obtain rfl := Option.some.inj subject
      exact congrArg (Answer.reply <$> ·) (answer_extend_congr same _)
    | _ => exact absurd subject (by simp [Call.subject?])
  | _ => exact absurd subject (by simp [Call.subject?])

end Indifference

section Building

theorem settings_of_create {draft : Draft} {given : Option Settings}
    (held : (s.create slot draft given).2.find? slot = some d) :
    (Descriptor.ofDraft {} draft).isOk = true ∧ d.settings = (s.settingsOr given).1 := by
  have replaces : s.Replaces slot (.create slot draft given) := rfl
  have ok : (Descriptor.ofDraft {} draft).isOk = true := by
    rcases made_of_replaces replaces held with
      ⟨draft', given', settings, same, built⟩ | ⟨source, original, same, -, -⟩
    · obtain ⟨-, rfl, rfl⟩ := Step.create.inj same
      rw [Descriptor.isOk_ofDraft {} settings, built]
      rfl
    · exact absurd same (by simp)
  obtain ⟨d', found, settings⟩ := s.find?_create_of_isOk slot given ok
  obtain rfl := Option.some.inj (held.symm.trans found)
  exact ⟨ok, settings⟩

/-- The settings for the last of some calls: those given to it, or else those read from the
environment as it was when a call first asked for them. -/
inductive Resolves (environment : Environment) (calls : List Call) :
    Option Settings → Settings → Prop
  | given (settings : Settings) : Resolves environment calls (some settings) settings
  | read {earlier later : List Call} {first : Call}
      (reading : FirstAsks calls earlier first later) :
      Resolves environment calls none
        (Settings.ofEnvironment (environmentAfter environment earlier))

theorem resolves_of_create (fresh : s.captured = none) {draft : Draft} {given : Option Settings}
    (held : (s.calls (calls ++ [.step (.create slot draft given)])).2.find? slot = some d) :
    Resolves s.environment (calls ++ [.step (.create slot draft given)]) given d.settings := by
  rw [calls_concat] at held
  obtain ⟨ok, settings⟩ := settings_of_create held
  rw [settings]
  cases given with
  | some given => exact .given given
  | none =>
    obtain ⟨earlier, first, later, reading, read⟩ :=
      settings_of_asks (c := .step (.create slot draft none)) fresh calls ok
    rw [settingsOr, read]
    exact .read reading

end Building

def start (environment : Environment) : Session := { environment }

structure CapturesOnce (environment : Environment) : Prop where
  /-- Whatever call asks for settings, it takes those that the environment stood for when a call
  first asked for them. -/
  taken : ∀ calls c, c.asksSettings = true → ∃ earlier first later,
    FirstAsks (calls ++ [c]) earlier first later ∧
      ((start environment).calls calls).2.Takes c
        (Settings.ofEnvironment (environmentAfter environment earlier))
  /-- Whatever is held descends from a descriptor that was built with the same settings. -/
  built : ∀ calls slot d, ((start environment).calls calls).2.find? slot = some d →
    ∃ before origin draft given after,
      calls = (before ++ [.step (.create origin draft given)]) ++ after ∧
      ((start environment).calls
        (before ++ [.step (.create origin draft given)])).2.Descends origin after slot ∧
      Resolves environment (before ++ [.step (.create origin draft given)]) given d.settings
  inherited : ∀ before calls slot last d d',
    ((start environment).calls before).2.find? slot = some d →
    ((start environment).calls before).2.Descends slot calls last →
    ((start environment).calls (before ++ calls)).2.find? last = some d' →
      d'.settings = d.settings
  /-- A call on a descriptor or on what descends from it has the same answer and the same events
  whatever ambient calls are left out or come in between. -/
  indifferent : ∀ before calls calls' slot last c,
    ((start environment).calls before).2.Descends slot calls last →
    ((start environment).calls before).2.IsSourced calls →
    calls'.filter (!·.isAmbient) = calls.filter (!·.isAmbient) →
    c.subject? = some last →
      (((start environment).calls (before ++ calls')).2.call c).1 =
        (((start environment).calls (before ++ calls)).2.call c).1

theorem captures_once (environment : Environment) : CapturesOnce environment where
  taken := by
    intro calls c asks
    obtain ⟨earlier, first, later, reading, settings⟩ :=
      settings_of_asks (s := start environment) rfl calls asks
    exact ⟨earlier, first, later, reading, settings ▸ takes_of_asks asks⟩
  built := by
    intro calls slot d held
    rcases exists_descends held with ⟨origin, present, -⟩ | made
    · exact absurd present Bool.false_ne_true
    · obtain ⟨before, origin, draft, given, after, rfl, descends⟩ := made
      have split := List.append_cons before (.step (.create origin draft given)) after
      have reached := (start environment).calls_concat before
        (.step (.create origin draft given))
      rw [split, calls_append] at held
      have descends := reached ▸ descends
      obtain ⟨original, present, inherited⟩ := descends.inherited held
      refine ⟨before, origin, draft, given, after, split, descends, ?_⟩
      rw [inherited]
      exact resolves_of_create rfl present
  inherited := by
    intro before calls slot last d d' present descends held
    rw [calls_append] at held
    obtain ⟨original, found, inherited⟩ := descends.inherited held
    obtain rfl := Option.some.inj (present.symm.trans found)
    exact inherited
  indifferent := by
    intro before calls calls' slot last c descends sourced others subject
    rw [calls_append, calls_append]
    exact answer_congr subject (descends.find?_eq sourced rfl others)

def strictCalls : List Call :=
  [.step (.setEnvironment { strict := some "yes" }),
   .step (.create "order"
    { tableName := .text "Orders"
      columns := .list [.record [("name", .text "id"), ("primary_key", .bool true)]] } none)]

def turningCalls : List Call :=
  [.step (.setEnvironment { strict := some "no", defaultSqlType := some "uuid" }),
   .step .clearSettings, .step .currentSettings, .step (.freeze "order" "final")]

theorem captures_once_of_strictCalls :
    (∃ d, ((start {}).calls (strictCalls ++ turningCalls)).2.find? "final" = some d ∧
      d.settings = Settings.ofEnvironment { strict := some "yes" }) ∧
    (((start {}).calls (strictCalls ++ turningCalls)).2.call
        (.step (.ask "final" .createTable))).1 =
      (((start {}).calls (strictCalls ++ [.step .currentSettings,
        .step (.freeze "order" "final")])).2.call (.step (.ask "final" .createTable))).1 := by
  have once := captures_once {}
  have descends : ((start {}).calls strictCalls).2.Descends "order"
      [.step .currentSettings, .step (.freeze "order" "final")] "final" :=
    .kept id (.copied rfl (.itself _ _))
  have turned : ((start {}).calls strictCalls).2.Descends "order" turningCalls "final" :=
    .kept id (.kept id (.kept id (.copied rfl (.itself _ _))))
  have sourced : ((start {}).calls strictCalls).2.IsSourced
      [.step .currentSettings, .step (.freeze "order" "final")] := by
    refine ⟨by simp, ?_, trivial⟩
    intro source target same
    obtain ⟨rfl, -⟩ := Step.freeze.inj (Call.step.inj same)
    rfl
  constructor
  · exact ⟨_, rfl, once.inherited strictCalls turningCalls "order" "final" _ _ rfl turned rfl⟩
  · exact once.indifferent strictCalls _ turningCalls "order" "final" _ descends sourced rfl rfl

end Session

end TableSchema
