import TableSchema.Validation

/-!
Counted events, as lists of the series that they count. Of what validation finds, each issue is
counted once by its code.
-/

namespace TableSchema

/-- Each counter moves as often as its series is listed; without metrics none does. -/
def Counts (enabled : Bool) (events : List Event) (ledger : List Series) : Prop :=
  ∀ series, events.count (.count series) = if enabled then ledger.count series else 0

namespace Counts

variable {enabled : Bool} {events events' : List Event} {ledger ledger' : List Series}

theorem nil : Counts enabled [] [] := by
  intro series
  simp

theorem append (first : Counts enabled events ledger) (second : Counts enabled events' ledger') :
    Counts enabled (events ++ events') (ledger ++ ledger') := by
  intro series
  rw [List.count_append, List.count_append, first series, second series]
  cases enabled <;> rfl

theorem perm (h : Counts enabled events ledger) (same : ledger.Perm ledger') :
    Counts enabled events ledger' := by
  intro series
  rw [h series, same.count_eq]

theorem each {α : Type} {f : α → List Event} {series : α → Series}
    (one : ∀ x, Counts enabled (f x) [series x]) (xs : List α) :
    Counts enabled (xs.flatMap f) (xs.map series) := by
  induction xs with
  | nil => exact nil
  | cons x xs ih => exact (one x).append ih

theorem logged (entry : LogEntry) (series : Series) :
    Counts enabled (.log entry :: Event.counted enabled series) [series] := by
  intro other
  unfold Event.counted
  cases enabled with
  | false => simp
  | true => by_cases same : series = other <;> simp [same]

end Counts

namespace Validation

variable {settings : Settings}

def series (x : Observed (List Issue)) : List Series :=
  (x.outcome.toOption.getD []).map fun issue => .issues issue.code

theorem counts_reported (found : List Issue) :
    Counts settings.metricsEnabled (found.flatMap (events settings))
      (found.map fun issue => .issues issue.code) :=
  Counts.each (fun issue => Counts.logged _ (.issues issue.code)) found

theorem counts_validate (settings : Settings) (columns : List Column)
    (constraints : List ForeignKey) :
    Counts settings.metricsEnabled (validate settings columns constraints).events
      (series (validate settings columns constraints)) := by
  unfold validate
  cases issues columns constraints with
  | error fault => exact Counts.nil
  | ok found =>
    rw [Observed.lift_ok_bind, Observed.emit_bind, Observed.events_pure, List.append_nil]
    exact counts_reported found

theorem counts_checkFilter (settings : Settings) (filter : Value) :
    Counts settings.metricsEnabled (checkFilter settings filter).events
      (series (checkFilter settings filter)) := by
  unfold checkFilter
  cases Filter.ofValue filter with
  | error fault => exact Counts.nil
  | ok f =>
    rw [Observed.lift_ok_bind]
    cases filterIssues f with
    | error fault => exact Counts.nil
    | ok found =>
      rw [Observed.lift_ok_bind, Observed.emit_bind, Observed.events_pure, List.append_nil]
      exact counts_reported found

end Validation

end TableSchema
