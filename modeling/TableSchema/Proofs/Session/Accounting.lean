import TableSchema.Proofs.Session.Unmetered

/-!
The counters of a session. Each call moves them by what it answers and by the issues that it finds;
a whole run moves them by the sum of this. Without metrics none is moved, which is all that there is
to tell such a run by.
-/

namespace TableSchema

open Verification (Verifier)

theorem Series.name_mem_names (series : Series) : series.name ∈ names :=
  List.mem_mergeSort.2 (List.mem_map_of_mem (mem_all series))

theorem counts_verify (v : Verifier) (sql : Value) (enabled : Bool) :
    Counts enabled (v.verify sql).events [] := by
  intro series
  have none := Observed.increments_uncounted (v.verify sql) series
  rw [Verifier.uncounted_verify] at none
  rw [List.count_nil, ite_self]
  exact none

theorem Counts.of_nil {enabled enabled' : Bool} {events : List Event}
    (h : Counts enabled events []) : Counts enabled' events [] := by
  intro series
  have none := h series
  rw [List.count_nil, ite_self] at none ⊢
  exact none

namespace Session

variable {s : Session} {enabled : Bool}

/-- What a call has to count, each series as often as it has to move. -/
def ledger (s : Session) : Call → List Series
  | .step (.ask slot query) => (s.find? slot).elim [] (·.ledger query)
  | .step (.freeze source _) => (s.find? source).elim [] fun d => Validation.series d.validate
  | .validate columns constraints given =>
    Validation.series (Validation.validate (s.settingsOr given).1 columns constraints)
  | .checkFilter filter given =>
    Validation.series (Validation.checkFilter (s.settingsOr given).1 filter)
  | _ => []

def ledgers (s : Session) : List Call → List Series
  | [] => []
  | c :: rest => s.ledger c ++ (s.call c).2.ledgers rest

theorem counts_ask (named : s.IsNamed) (slot : String) (query : Query) :
    Counts (s.isCounting (.step (.ask slot query))) (s.step (.ask slot query)).1.events
      (s.ledger (.step (.ask slot query))) := by
  cases held : s.find? slot with
  | none =>
    rw [step_ask_of_absent held, ledger, held]
    exact Counts.nil
  | some d =>
    obtain ⟨name, text⟩ := named slot d held
    rw [step_ask_of_held held, ledger, isCounting, held]
    exact Descriptor.counts_answer text query

theorem counts_freeze (s : Session) (source target : String) :
    Counts (s.isCounting (.step (.freeze source target))) (s.freeze source target).1.events
      (s.ledger (.step (.freeze source target))) := by
  unfold freeze
  cases held : s.find? source with
  | none =>
    rw [ledger, held]
    exact Counts.nil
  | some d =>
    dsimp only
    rw [ledger, isCounting, held, Observed.events_map, Descriptor.events_freeze]
    exact Descriptor.counts_validation d

theorem events_create (s : Session) (slot : String) (draft : Draft) (given : Option Settings) :
    (s.create slot draft given).1.events = [] := by
  unfold create
  dsimp only
  cases Descriptor.ofDraft ((s.erase slot).settingsOr given).1 draft <;> rfl

theorem events_extend (s : Session) (slot : String)
    (change : Descriptor → Descriptor × Except Fault Unit) :
    (s.extend slot change).1.events = [] := by
  unfold extend
  cases s.find? slot with
  | none => rfl
  | some d => rw [Observed.events_map, Observed.events_lift]

theorem counts_step (named : s.IsNamed) (step : Step) :
    Counts (s.isCounting (.step step)) (s.step step).1.events (s.ledger (.step step)) := by
  cases step with
  | ask slot query => exact counts_ask named slot query
  | freeze source target => exact counts_freeze s source target
  | create slot draft given =>
    rw [step, events_create]
    exact Counts.nil
  | addColumns slot columns =>
    rw [step, events_extend]
    exact Counts.nil
  | addConstraints slot constraints =>
    rw [step, events_extend]
    exact Counts.nil
  | setUpLogging given =>
    rw [step, Observed.events_map]
    exact Counts.nil
  | _ => exact Counts.nil

theorem counts_call (named : s.IsNamed) (c : Call) :
    Counts (s.isCounting c) (s.call c).1.events (s.ledger c) := by
  cases c with
  | step step =>
    rw [call, Observed.events_map]
    exact counts_step named step
  | validate columns constraints given =>
    rw [call, Observed.events_map]
    exact Validation.counts_validate (s.settingsOr given).1 columns constraints
  | checkFilter filter given =>
    rw [call, Observed.events_map]
    exact Validation.counts_checkFilter (s.settingsOr given).1 filter
  | verify verifier sql =>
    rw [call, Observed.events_map]
    exact counts_verify verifier sql _

theorem isCounting_eq (metrics : s.WithMetrics enabled) {c : Call}
    (brought : c.WithMetrics enabled) : s.isCounting c = enabled ∨ s.ledger c = [] := by
  have held (slot : String) (d : Descriptor) (h : s.find? slot = some d) :
      d.settings.metricsEnabled = enabled := metrics.held slot d h
  cases c with
  | step step =>
    cases step with
    | ask slot query =>
      cases present : s.find? slot with
      | none => exact .inr (by rw [ledger, present]; rfl)
      | some d => exact .inl (by rw [isCounting, present]; exact held slot d present)
    | freeze source target =>
      cases present : s.find? source with
      | none => exact .inr (by rw [ledger, present]; rfl)
      | some d => exact .inl (by rw [isCounting, present]; exact held source d present)
    | _ => exact .inr rfl
  | validate columns constraints given => exact .inl (metrics.settingsOr brought)
  | checkFilter filter given => exact .inl (metrics.settingsOr brought)
  | verify verifier sql => exact .inr rfl

theorem counts_call_of_metrics (named : s.IsNamed) (metrics : s.WithMetrics enabled) {c : Call}
    (brought : c.WithMetrics enabled) : Counts enabled (s.call c).1.events (s.ledger c) := by
  have counted := counts_call named c
  rcases isCounting_eq metrics brought with same | nothing
  · rwa [same] at counted
  · rw [nothing] at counted ⊢
    exact counted.of_nil

/-- A run counts what its calls have to. -/
theorem counts_calls (named : s.IsNamed) (metrics : s.WithMetrics enabled) {calls : List Call}
    (names : ∀ c ∈ calls, c.IsNamed) (brought : ∀ c ∈ calls, c.WithMetrics enabled) :
    Counts enabled ((s.calls calls).1.flatMap Observed.events) (s.ledgers calls) := by
  induction calls generalizing s with
  | nil => exact Counts.nil
  | cons c calls ih =>
    rw [List.forall_mem_cons] at names brought
    exact (counts_call_of_metrics named metrics brought.1).append
      (ih (named.call names.1) (metrics.call brought.1) names.2 brought.2)

structure ConservesCounters (s : Session) (calls : List Call) : Prop where
  /-- Each call moves them by what it has to count, if its settings enable metrics. -/
  each : ∀ before c after, calls = before ++ c :: after →
    Counts ((s.calls before).2.isCounting c) ((s.calls before).2.call c).1.events
      ((s.calls before).2.ledger c)
  /-- With metrics enabled, a run moves them by what all its calls have to count, and with metrics
  disabled not at all. -/
  total : ∀ enabled, s.WithMetrics enabled → (∀ c ∈ calls, c.WithMetrics enabled) →
    Counts enabled ((s.calls calls).1.flatMap Observed.events) (s.ledgers calls)
  primed : ∀ answer ∈ (s.calls calls).1, ∀ series, 0 < answer.increments series →
    series.name ∈ Series.names
  /-- Runs that differ in the flag alone answer and log the same, and go on to differ in nothing
  else. -/
  indifferent : ∀ (s' : Session) (calls' : List Call), s'.unmetered = s.unmetered →
    calls'.map Call.unmetered = calls.map Call.unmetered →
      (s'.calls calls').1.map Observed.unmetered = (s.calls calls).1.map Observed.unmetered ∧
        (s'.calls calls').2.unmetered = (s.calls calls).2.unmetered

/-- Whatever is called in a session over tables that are named by texts, its counters move by what
the calls answer and find, and by nothing else. -/
theorem counters_conserved (s : Session) (named : s.IsNamed) (calls : List Call)
    (names : ∀ c ∈ calls, c.IsNamed) : s.ConservesCounters calls where
  each := by
    rintro before c after rfl
    have earlier : ∀ c ∈ before, c.IsNamed := fun c mem => names c (List.mem_append_left _ mem)
    exact counts_call (named.calls earlier) c
  total := fun _ metrics brought => counts_calls named metrics names brought
  primed := fun _ _ series _ => series.name_mem_names
  indifferent := by
    intro s' calls' sessions same
    have runs := s'.calls_unmetered calls'
    rw [sessions, same, s.calls_unmetered calls] at runs
    exact ⟨(congrArg Prod.fst runs).symm, (congrArg Prod.snd runs).symm⟩

def loanCalls (metricsEnabled : Bool) : List Call :=
  [.step (.create "loan"
      { tableName := .text "Loans"
        columns := .list [.record [("name", .text "book")]]
        constraints := .list
          [.record [("localColumn", .text "book"), ("referencedTable", .text "Books"),
            ("referencedColumn", .text "id")],
           .record [("localColumn", .text "reader"), ("referencedTable", .null),
            ("referencedColumn", .text "id")]] }
      (some { strictValidation := true, metricsEnabled })),
   .step (.ask "loan" (.insert (.record []))),
   .step (.ask "loan" (.update (.record [("book", .int 1)]))),
   .step (.ask "loan" .tableConstraints),
   .step (.freeze "loan" "copy"),
   .checkFilter (.record [("column", .text "book"), ("operator", .text "~~")]) none,
   .verify Verifier.unreading (.text "")]

theorem loanCalls_named (metricsEnabled : Bool) : ∀ c ∈ loanCalls metricsEnabled, c.IsNamed := by
  intro c mem
  simp only [loanCalls, List.mem_cons, List.not_mem_nil, or_false] at mem
  rcases mem with rfl | rfl | rfl | rfl | rfl | rfl | rfl
  · exact ⟨"Loans", rfl⟩
  all_goals exact trivial

theorem withMetrics_of_loanCalls (enabled : Bool) :
    ∀ c ∈ loanCalls enabled, c.WithMetrics enabled := by
  intro c mem
  simp only [loanCalls, List.mem_cons, List.not_mem_nil, or_false] at mem
  rcases mem with rfl | rfl | rfl | rfl | rfl | rfl | rfl
  · intro settings given
    obtain rfl := Option.some.inj given
    rfl
  · exact trivial
  · exact trivial
  · exact trivial
  · exact trivial
  · intro settings given
    simp at given
  · exact trivial

theorem withMetrics_of_fresh (environment : Environment)
    (flag : (Settings.ofEnvironment environment).metricsEnabled = enabled) :
    ({ environment } : Session).WithMetrics enabled where
  environment := flag
  captured := by simp
  held := allHeld_of_fresh rfl

def quietSession : Session where
  environment := { metrics := some "off" }

theorem counters_conserved_of_loanCalls :
    ({} : Session).IsNamed ∧ (∀ c ∈ loanCalls true, c.IsNamed) ∧
      ({} : Session).ledgers (loanCalls true) =
        [.degenerate .emptyInsert, .statements .update, .degenerate .missingPrimaryKey,
          .statements .foreignKeyConstraint, .issues .noPrimaryKey,
          .issues .unknownForeignKeyColumn, .issues .unknownOperator] ∧
      (∀ series, ((({} : Session).calls (loanCalls true)).1.flatMap Observed.events).count
        (.count series) = (({} : Session).ledgers (loanCalls true)).count series) ∧
      (∀ series, ((quietSession.calls (loanCalls false)).1.flatMap Observed.events).count
        (.count series) = 0) ∧
      (quietSession.calls (loanCalls false)).1.map Observed.unmetered =
        (({} : Session).calls (loanCalls true)).1.map Observed.unmetered := by
  have loud := counters_conserved {} (allHeld_of_fresh rfl) (loanCalls true) (loanCalls_named true)
  have quiet := counters_conserved quietSession (allHeld_of_fresh rfl) (loanCalls false)
    (loanCalls_named false)
  refine ⟨allHeld_of_fresh rfl, loanCalls_named true, by rfl, ?_, ?_, ?_⟩
  · exact loud.total true (withMetrics_of_fresh {} (by decide)) (withMetrics_of_loanCalls true)
  · exact quiet.total false (withMetrics_of_fresh _ (by decide)) (withMetrics_of_loanCalls false)
  · exact (loud.indifferent quietSession (loanCalls false) rfl rfl).1

end Session

end TableSchema
