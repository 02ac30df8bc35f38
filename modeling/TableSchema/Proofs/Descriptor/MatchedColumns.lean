import TableSchema.Proofs.Descriptor.PlainNames
import TableSchema.Proofs.Verification.Degeneracy

/-!
The columns that data match: those that an update assigns and those that an insert fills. Once the
data can be asked for their keys, the two statements are written for exactly these columns.
-/

namespace TableSchema.Descriptor

variable {d : Descriptor} {data : Value}

def assigned (d : Descriptor) (data : Value) : List Column :=
  d.columns.filter fun c => data.contains c.name && !c.isPrimary

theorem updateColumns_eq_ok (named : ∀ c ∈ d.columns, ∃ s, c.name = .text s)
    (keys : data.IsKeySet) : d.updateColumns data = .ok (d.assigned data) := by
  have asked : d.columns.forM (fun c => data.checkMembership c.name) = .ok () := by
    refine forM_eq_ok_iff.2 fun c hc => ?_
    obtain ⟨s, text⟩ := named c hc
    rw [text, keys]
  rw [updateColumns, asked]
  rfl

theorem sqlUpdate_outcome (named : ∀ c ∈ d.columns, ∃ s, c.name = .text s) (keys : data.IsKeySet) :
    (d.sqlUpdate data).outcome =
      (fun table => d.updateText table (d.assigned data)) <$> d.sqlName := by
  cases table : d.sqlName with
  | ok name => rw [sqlUpdate_eq table (updateColumns_eq_ok named keys)]; rfl
  | error fault =>
    rw [sqlUpdate, updateColumns_eq_ok named keys, Observed.lift_ok_bind, Observed.emit_bind, table]
    rfl

def inserted (d : Descriptor) (data : Value) : List Column :=
  d.columns.filter fun c => data.contains (d.insertKey c)

theorem insertColumns_eq_ok (keys : data.IsKeySet) :
    d.insertColumns data = .ok (d.inserted data) := by
  have asked : d.columns.forM (fun c => data.checkMembership (d.insertKey c)) = .ok () :=
    forM_eq_ok_iff.2 fun c _ => keys (d.prefixed c.name.display)
  rw [insertColumns, asked]
  rfl

theorem sqlInsert_outcome (keys : data.IsKeySet) (present : d.inserted data ≠ []) :
    (d.sqlInsert data).outcome =
      (fun table => d.insertText table (d.inserted data)) <$> d.sqlName := by
  cases table : d.sqlName with
  | ok name => rw [sqlInsert_eq table (insertColumns_eq_ok keys) present]; rfl
  | error fault =>
    rw [sqlInsert, insertColumns_eq_ok keys, Observed.lift_ok_bind]
    cases columns : d.inserted data with
    | nil => exact absurd columns present
    | cons c cs =>
      dsimp only
      rw [table]
      rfl

end TableSchema.Descriptor
