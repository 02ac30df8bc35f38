import TableSchema.Proofs.Descriptor.Extension
import TableSchema.Proofs.Descriptor.Ledger

/-!
What a descriptor does once its settings disable metrics: it answers and logs the same, and counts
nothing. Every operation commutes with taking the counted events away.
-/

namespace TableSchema

def Event.isLogged (event : Event) : Bool :=
  event.entry?.isSome

namespace Observed

variable {α β : Type}

/-- The same outcome and the same log, with nothing counted. -/
def uncounted (x : Observed α) : Observed α :=
  { x with events := x.events.filter Event.isLogged }

theorem uncounted_pure (a : α) : (pure a : Observed α).uncounted = pure a := rfl

theorem uncounted_lift (outcome : Except Fault α) :
    (lift outcome).uncounted = lift outcome := rfl

theorem uncounted_emit (events : List Event) :
    (emit events).uncounted = emit (events.filter Event.isLogged) := rfl

theorem uncounted_bind (x : Observed α) (f : α → Observed β) :
    (x >>= f).uncounted = x.uncounted >>= fun a => (f a).uncounted := by
  obtain ⟨outcome, events⟩ := x
  cases outcome with
  | error fault => rfl
  | ok a => exact congrArg (Observed.mk _) (List.filter_append ..)

theorem uncounted_map (f : α → β) (x : Observed α) :
    (f <$> x).uncounted = f <$> x.uncounted := by
  rw [map_eq, map_eq]
  rfl

theorem uncounted_mapM (f : α → Observed β) (xs : List α) :
    (xs.mapM f).uncounted = xs.mapM fun x => (f x).uncounted := by
  induction xs with
  | nil => rfl
  | cons x xs ih =>
    rw [List.mapM_cons, List.mapM_cons, uncounted_bind]
    congr 1
    funext b
    rw [uncounted_bind, ih]
    rfl

theorem increments_uncounted (x : Observed α) (series : Series) :
    x.uncounted.increments series = 0 := by
  refine List.count_eq_zero.2 fun mem => ?_
  have logged : (Event.count series).isLogged = true := (List.mem_filter.1 mem).2
  exact absurd logged (by simp [Event.isLogged, Event.entry?])

end Observed

theorem filter_isLogged_counted (enabled : Bool) (series : Series) :
    (Event.counted enabled series).filter Event.isLogged = Event.counted false series := by
  cases enabled <;> rfl

theorem filter_isLogged_logged (entry : LogEntry) (enabled : Bool) (series : Series) :
    (.log entry :: Event.counted enabled series).filter Event.isLogged =
      .log entry :: Event.counted false series := by
  rw [List.filter_cons_of_pos rfl, filter_isLogged_counted]

def Settings.unmetered (settings : Settings) : Settings :=
  { settings with metricsEnabled := false }

namespace Validation

theorem filter_isLogged_events (settings : Settings) (found : List Issue) :
    (found.flatMap (events settings)).filter Event.isLogged =
      found.flatMap (events settings.unmetered) := by
  rw [List.filter_flatMap]
  congr 1
  funext issue
  exact filter_isLogged_logged ..

theorem validate_unmetered (settings : Settings) (columns : List Column)
    (constraints : List ForeignKey) :
    validate settings.unmetered columns constraints =
      (validate settings columns constraints).uncounted := by
  simp only [validate, Observed.uncounted_bind, Observed.uncounted_lift, Observed.uncounted_emit,
    Observed.uncounted_pure, filter_isLogged_events]

theorem checkFilter_unmetered (settings : Settings) (filter : Value) :
    checkFilter settings.unmetered filter = (checkFilter settings filter).uncounted := by
  simp only [checkFilter, Observed.uncounted_bind, Observed.uncounted_lift,
    Observed.uncounted_emit, Observed.uncounted_pure, filter_isLogged_events]

end Validation

namespace Descriptor

def unmetered (d : Descriptor) : Descriptor :=
  { d with settings := d.settings.unmetered }

variable (d : Descriptor)

theorem generated_unmetered (kind : StatementKind) (sql : String) :
    d.unmetered.generated kind sql = (d.generated kind sql).filter Event.isLogged :=
  (filter_isLogged_logged ..).symm

theorem degenerate_unmetered (reason : Degeneracy) (text : String) :
    d.unmetered.degenerate reason text = (d.degenerate reason text).filter Event.isLogged :=
  (filter_isLogged_logged ..).symm

theorem publish_unmetered (kind : StatementKind) (sql : String) :
    d.unmetered.publish kind sql = (d.publish kind sql).uncounted := by
  rw [publish_eq, publish_eq, generated_unmetered]
  rfl

theorem updateEvents_unmetered (columns : List Column) :
    d.unmetered.updateEvents columns = (d.updateEvents columns).filter Event.isLogged := by
  have same : d.unmetered.primaryColumn? = d.primaryColumn? := rfl
  unfold updateEvents
  rw [List.filter_append, same]
  congr 1
  · split
    · exact degenerate_unmetered ..
    · rfl
  · split
    · exact degenerate_unmetered ..
    · rfl

theorem sqlCreateTable_unmetered : d.unmetered.sqlCreateTable = d.sqlCreateTable.uncounted := by
  simp only [sqlCreateTable, Observed.uncounted_bind, Observed.uncounted_lift, publish_unmetered]
  rfl

theorem sqlCreateEnumConstraints_unmetered :
    d.unmetered.sqlCreateEnumConstraints = d.sqlCreateEnumConstraints.uncounted := by
  have published : d.unmetered.publish .enumConstraint =
      fun sql => (d.publish .enumConstraint sql).uncounted :=
    funext (d.publish_unmetered .enumConstraint)
  simp only [sqlCreateEnumConstraints, Observed.uncounted_bind, Observed.uncounted_lift,
    Observed.uncounted_mapM, published]
  rfl

theorem sqlCreateTableConstraints_unmetered :
    d.unmetered.sqlCreateTableConstraints = d.sqlCreateTableConstraints.uncounted := by
  simp only [sqlCreateTableConstraints, Observed.uncounted_bind, Observed.uncounted_lift,
    Observed.uncounted_mapM, publish_unmetered]
  rfl

theorem sqlDropTable_unmetered : d.unmetered.sqlDropTable = d.sqlDropTable.uncounted := by
  simp only [sqlDropTable, Observed.uncounted_bind, Observed.uncounted_lift, publish_unmetered]
  rfl

theorem sqlSelect_unmetered (useLabels : Bool) (filters : Value) :
    d.unmetered.sqlSelect useLabels filters = (d.sqlSelect useLabels filters).uncounted := by
  simp only [sqlSelect, Observed.uncounted_bind, Observed.uncounted_lift, publish_unmetered]
  rfl

theorem sqlDelete_unmetered (filters : Value) :
    d.unmetered.sqlDelete filters = (d.sqlDelete filters).uncounted := by
  simp only [sqlDelete, Observed.uncounted_bind, Observed.uncounted_lift, publish_unmetered]
  rfl

theorem sqlInsert_unmetered (data : Value) :
    d.unmetered.sqlInsert data = (d.sqlInsert data).uncounted := by
  have same : d.unmetered.insertColumns data = d.insertColumns data := rfl
  unfold sqlInsert
  rw [same, Observed.uncounted_bind, Observed.uncounted_lift]
  congr 1
  funext columns
  cases columns with
  | nil =>
    dsimp only
    rw [Observed.uncounted_bind, Observed.uncounted_emit, ← degenerate_unmetered]
    rfl
  | cons c cs =>
    dsimp only
    rw [Observed.uncounted_bind, Observed.uncounted_lift]
    simp only [publish_unmetered]
    rfl

theorem sqlUpdate_unmetered (data : Value) :
    d.unmetered.sqlUpdate data = (d.sqlUpdate data).uncounted := by
  simp only [sqlUpdate, Observed.uncounted_bind, Observed.uncounted_lift, Observed.uncounted_emit,
    publish_unmetered, updateEvents_unmetered]
  rfl

theorem validate_unmetered : d.unmetered.validate = d.validate.uncounted :=
  Validation.validate_unmetered ..

theorem answer_unmetered (q : Query) : d.unmetered.answer q = (d.answer q).uncounted := by
  cases q with
  | tableName lowered =>
    rw [answer, answer, Observed.uncounted_map]
    rfl
  | columnName ofAlias =>
    rw [answer, answer, Observed.uncounted_map]
    rfl
  | whereClause filters =>
    rw [answer, answer, Observed.uncounted_map]
    rfl
  | createTable => rw [answer, answer, Observed.uncounted_map, sqlCreateTable_unmetered]
  | enumConstraints =>
    rw [answer, answer, Observed.uncounted_map, sqlCreateEnumConstraints_unmetered]
  | tableConstraints =>
    rw [answer, answer, Observed.uncounted_map, sqlCreateTableConstraints_unmetered]
  | dropTable => rw [answer, answer, Observed.uncounted_map, sqlDropTable_unmetered]
  | select useLabels filters => rw [answer, answer, Observed.uncounted_map, sqlSelect_unmetered]
  | insert data => rw [answer, answer, Observed.uncounted_map, sqlInsert_unmetered]
  | update data => rw [answer, answer, Observed.uncounted_map, sqlUpdate_unmetered]
  | delete filters => rw [answer, answer, Observed.uncounted_map, sqlDelete_unmetered]
  | validate => rw [answer, answer, Observed.uncounted_map, validate_unmetered]
  | _ => rfl

theorem freeze_unmetered : d.unmetered.freeze = unmetered <$> d.freeze.uncounted := by
  unfold freeze
  rw [validate_unmetered, Observed.uncounted_bind, map_bind]
  congr 1
  funext issues
  have strict : d.unmetered.settings.strictValidation = d.settings.strictValidation := rfl
  rw [strict]
  split
  · rfl
  · simp only [Observed.uncounted_bind, Observed.uncounted_lift, Observed.uncounted_pure, map_bind]
    rfl

theorem ofDraft_unmetered (settings : Settings) (draft : Draft) :
    ofDraft settings.unmetered draft = unmetered <$> ofDraft settings draft := by
  rw [ofDraft_settings settings]
  cases built : ofDraft settings draft with
  | error fault => rfl
  | ok d =>
    rw [← settings_of_ofDraft built]
    rfl

theorem add_unmetered (m : Member) (parts : List Value) :
    d.unmetered.add m parts = ((d.add m parts).1.unmetered, (d.add m parts).2) := by
  unfold add
  have same : d.unmetered.frozen = d.frozen := rfl
  rw [same]
  split
  · rfl
  · cases m <;> rfl

end Descriptor

end TableSchema
