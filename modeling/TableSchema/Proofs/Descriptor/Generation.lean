import TableSchema.Descriptor.Query

/-!
What the generating operations answer and report once the names that they lower are texts. The
other proofs go by these equations and do not open the operations again.
-/

namespace TableSchema

theorem forM_eq_ok_iff {α : Type} {f : α → Except Fault Unit} {xs : List α} :
    xs.forM f = .ok () ↔ ∀ x ∈ xs, f x = .ok () := by
  induction xs with
  | nil => simp [pure, Except.pure]
  | cons x xs ih =>
    rw [List.forM_eq_forM] at ih ⊢
    rw [List.forM_cons, List.forall_mem_cons, ← ih]
    cases first : f x with
    | ok u => simp [bind, Except.bind]
    | error fault => simp [bind, Except.bind]

theorem Observed.mapM_eq {α β : Type} {f : α → Observed β} {g : α → β} {e : α → List Event}
    {xs : List α} (h : ∀ x ∈ xs, f x = ⟨.ok (g x), e x⟩) :
    xs.mapM f = ⟨.ok (xs.map g), xs.flatMap e⟩ := by
  induction xs with
  | nil => rfl
  | cons x xs ih =>
    have rest := ih fun y hy => h y (List.mem_cons_of_mem x hy)
    rw [List.mapM_cons, rest, h x List.mem_cons_self]
    simp only [Observed.bind_eq, Observed.bind, Observed.outcome_pure, Observed.events_pure,
      List.append_nil, List.map_cons, List.flatMap_cons]

namespace Descriptor

variable {d : Descriptor} {table : String}

theorem sqlName_eq {name : String} (h : d.tableName = .text name) :
    d.sqlName = .ok (Text.lower name) := by
  rw [sqlName, h]
  rfl

theorem publish_eq (d : Descriptor) (kind : StatementKind) (sql : String) :
    d.publish kind sql = ⟨.ok sql, d.generated kind sql⟩ := by
  rw [publish, Observed.emit_bind, Observed.outcome_pure, Observed.events_pure, List.append_nil]

theorem sqlCreateTable_eq (h : d.sqlName = .ok table) :
    d.sqlCreateTable =
      ⟨.ok (d.createTableText table), d.generated .createTable (d.createTableText table)⟩ := by
  rw [sqlCreateTable, h, Observed.lift_ok_bind, publish_eq]

theorem sqlCreateEnumConstraints_eq (h : d.sqlName = .ok table) :
    d.sqlCreateEnumConstraints =
      ⟨.ok (d.enumConstraintBlocks table),
        (d.enumConstraintBlocks table).flatMap (d.generated .enumConstraint)⟩ := by
  have published : ∀ sql ∈ d.enumConstraintBlocks table,
      d.publish .enumConstraint sql = ⟨.ok (id sql), d.generated .enumConstraint sql⟩ :=
    fun sql _ => publish_eq d .enumConstraint sql
  rw [sqlCreateEnumConstraints, h, Observed.lift_ok_bind, Observed.mapM_eq published, List.map_id]

def foreignKeyText (table : String) (fk : ForeignKey) : String :=
  let name := foreignKeyConstraintName table fk
  conditionalBlock table name
    (addConstraintText table name (foreignKeyClause fk (Text.lower fk.referencedTable.display)))

theorem foreignKeyBlock_eq {fk : ForeignKey} {referenced : String}
    (h : fk.referencedTable = .text referenced) :
    foreignKeyBlock table fk = .ok (foreignKeyText table fk) := by
  rw [foreignKeyBlock, foreignKeyText, h]
  rfl

theorem sqlCreateTableConstraints_eq (h : d.sqlName = .ok table)
    (named : ∀ fk ∈ d.constraints, ∃ referenced, fk.referencedTable = .text referenced) :
    d.sqlCreateTableConstraints =
      ⟨.ok (d.constraints.map (foreignKeyText table)),
        d.constraints.flatMap fun fk =>
          d.generated .foreignKeyConstraint (foreignKeyText table fk)⟩ := by
  have published : ∀ fk ∈ d.constraints, (do
      let block ← Observed.lift (foreignKeyBlock table fk)
      d.publish .foreignKeyConstraint block) =
        ⟨.ok (foreignKeyText table fk),
          d.generated .foreignKeyConstraint (foreignKeyText table fk)⟩ := by
    intro fk hfk
    obtain ⟨referenced, text⟩ := named fk hfk
    rw [foreignKeyBlock_eq text, Observed.lift_ok_bind, publish_eq]
  rw [sqlCreateTableConstraints, h, Observed.lift_ok_bind]
  exact Observed.mapM_eq published

variable {filters data : Value} {clause : String} {columns : List Column}

theorem sqlSelect_eq (h : d.sqlName = .ok table) (hw : d.whereClause filters = .ok clause)
    (useLabels : Bool) :
    d.sqlSelect useLabels filters =
      ⟨.ok (d.selectText useLabels table clause),
        d.generated .select (d.selectText useLabels table clause)⟩ := by
  rw [sqlSelect, h, hw, Observed.lift_ok_bind, Observed.lift_ok_bind, publish_eq]

theorem sqlDelete_eq (h : d.sqlName = .ok table) (hw : d.whereClause filters = .ok clause) :
    d.sqlDelete filters =
      ⟨.ok (d.deleteText table clause), d.generated .delete (d.deleteText table clause)⟩ := by
  rw [sqlDelete, h, hw, Observed.lift_ok_bind, Observed.lift_ok_bind, publish_eq]

theorem sqlInsert_eq_empty (hc : d.insertColumns data = .ok []) :
    d.sqlInsert data =
      ⟨.ok "", d.degenerate .emptyInsert
        ("insert into " ++ d.tableName.display ++ " matched no columns")⟩ := by
  rw [sqlInsert, hc, Observed.lift_ok_bind, Observed.emit_bind]
  simp

theorem sqlInsert_eq (h : d.sqlName = .ok table) (hc : d.insertColumns data = .ok columns)
    (nonempty : columns ≠ []) :
    d.sqlInsert data =
      ⟨.ok (d.insertText table columns), d.generated .insert (d.insertText table columns)⟩ := by
  cases columns with
  | nil => exact absurd rfl nonempty
  | cons c cs =>
    rw [sqlInsert, hc, Observed.lift_ok_bind, h]
    exact publish_eq d .insert _

theorem sqlUpdate_eq (h : d.sqlName = .ok table) (hc : d.updateColumns data = .ok columns) :
    d.sqlUpdate data =
      ⟨.ok (d.updateText table columns),
        d.updateEvents columns ++ d.generated .update (d.updateText table columns)⟩ := by
  rw [sqlUpdate, hc, Observed.lift_ok_bind, Observed.emit_bind, h, Observed.lift_ok_bind,
    publish_eq]

end Descriptor

end TableSchema
