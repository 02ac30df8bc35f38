import TableSchema.Value.Access

/-!
Foreign keys and the referential actions that they may name.
-/

namespace TableSchema

structure ForeignKey where
  localColumn : Value
  referencedTable : Value
  referencedColumn : Value
  onDelete : Value := .null
  onUpdate : Value := .null
  deriving DecidableEq

namespace ForeignKey

def knownActions : List String :=
  ["CASCADE", "SET NULL", "RESTRICT", "NO ACTION"]

/-- Reads a foreign key from its description, in which nothing is required. -/
def ofRecord (r : Record) : ForeignKey where
  localColumn := r.pick ["local_column", "localColumn"]
  referencedTable := r.pick ["referenced_table", "referencedTable"]
  referencedColumn := r.pick ["referenced_column", "referencedColumn"]
  onDelete := r.pick ["on_delete", "onDelete"]
  onUpdate := r.pick ["on_update", "onUpdate"]

/-- Builds a foreign key from its fields. -/
def ofFields (r : Record) : Except Fault ForeignKey := do
  r.checkPart .foreignKey
  return {
    localColumn := r.pick ["local_column"]
    referencedTable := r.pick ["referenced_table"]
    referencedColumn := r.pick ["referenced_column"]
    onDelete := r.pick ["on_delete"]
    onUpdate := r.pick ["on_update"] }

/-- The keys that a description is asked for, in order. -/
def keys : List String :=
  ["local_column", "localColumn", "referenced_table", "referencedTable", "referenced_column",
   "referencedColumn", "on_delete", "onDelete", "on_update", "onUpdate"]

/-- Reads a foreign key that is described or already built. A text or list is taken for a
description without entries, unless one of the keys is found in it. -/
def ofValue : Value → Except Fault ForeignKey
  | .part .foreignKey fields => ofFields fields
  | .record r => .ok (ofRecord r)
  | other => do
    keys.forM fun key => other.checkMembership (.text key)
    if keys.any fun key => other.contains (.text key) then other.refuse .field
    else return ofRecord []

def toRecord (fk : ForeignKey) : Record :=
  [("local_column", fk.localColumn),
   ("referenced_table", fk.referencedTable),
   ("referenced_column", fk.referencedColumn),
   ("on_delete", fk.onDelete),
   ("on_update", fk.onUpdate)]

def toValue (fk : ForeignKey) : Value :=
  .part .foreignKey fk.toRecord

theorem ofRecord_toRecord (fk : ForeignKey) : ofRecord fk.toRecord = fk := by
  simp [ofRecord, toRecord, Record.pick, Record.pick?_cons, Record.get?_cons]

end ForeignKey

end TableSchema
