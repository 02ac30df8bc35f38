import TableSchema.Descriptor.Definition
import TableSchema.Descriptor.Where

/-!
Statements on the rows of the table. Inserts and updates write a placeholder `$alias_name` for each
column that the data hold; where nothing fits, or no primary key can be matched on, this is logged
and counted as a degenerate statement.
-/

namespace TableSchema.Descriptor

def selectText (d : Descriptor) (useLabels : Bool) (table clause : String) : String :=
  "SELECT " ++ ", ".intercalate (d.columnFields true useLabels) ++ " FROM " ++ table ++ " AS " ++
    d.aliasName ++ clause

def sqlSelect (d : Descriptor) (useLabels : Bool) (filters : Value) : Observed String := do
  let table ← Observed.lift d.sqlName
  let clause ← Observed.lift (d.whereClause filters)
  d.publish .select (d.selectText useLabels table clause)

def deleteText (d : Descriptor) (table clause : String) : String :=
  "DELETE FROM " ++ table ++ " AS " ++ d.aliasName ++ clause

def sqlDelete (d : Descriptor) (filters : Value) : Observed String := do
  let table ← Observed.lift d.sqlName
  let clause ← Observed.lift (d.whereClause filters)
  d.publish .delete (d.deleteText table clause)

def degenerate (d : Descriptor) (reason : Degeneracy) (text : String) : List Event :=
  .log ⟨.warning, .descriptor, text⟩ ::
    Event.counted d.settings.metricsEnabled (.degenerate reason)

/-- The key under which an insert looks for the value of a column. -/
def insertKey (d : Descriptor) (c : Column) : Value :=
  .text (d.prefixed c.name.display)

/-- The columns whose `alias_name` is among the data. -/
def insertColumns (d : Descriptor) (data : Value) : Except Fault (List Column) := do
  d.columns.forM fun c => data.checkMembership (d.insertKey c)
  return d.columns.filter fun c => data.contains (d.insertKey c)

def insertText (d : Descriptor) (table : String) (columns : List Column) : String :=
  "INSERT INTO " ++ table ++ " AS " ++ d.aliasName ++ " (" ++
    ", ".intercalate (columns.map fun c => d.reference c.name.display) ++ ") VALUES (" ++
    ", ".intercalate (columns.map fun c => "$" ++ d.prefixed c.name.display) ++ ")"

/-- An insert that nothing among the data matches is the empty text. -/
def sqlInsert (d : Descriptor) (data : Value) : Observed String := do
  match ← Observed.lift (d.insertColumns data) with
  | [] => do
    Observed.emit
      (d.degenerate .emptyInsert ("insert into " ++ d.tableName.display ++ " matched no columns"))
    return ""
  | columns => do
    let table ← Observed.lift d.sqlName
    d.publish .insert (d.insertText table columns)

/-- The columns, other than primary keys, whose bare name is among the data. -/
def updateColumns (d : Descriptor) (data : Value) : Except Fault (List Column) := do
  d.columns.forM fun c => data.checkMembership c.name
  return d.columns.filter fun c => data.contains c.name && !c.isPrimary

def assignment (d : Descriptor) (c : Column) : String :=
  d.reference c.name.display ++ " = $" ++ d.prefixed c.name.display

/-- Without a primary key, null is compared with a parameter of that name. -/
def updateText (d : Descriptor) (table : String) (columns : List Column) : String :=
  "UPDATE " ++ table ++ " AS " ++ d.aliasName ++ " SET " ++
    ", ".intercalate (columns.map d.assignment) ++ " WHERE " ++
    (d.primaryKey? false).getD "null" ++ " = $" ++ (d.primaryKey? true).getD "null"

def updateEvents (d : Descriptor) (columns : List Column) : List Event :=
  (if columns.isEmpty then
    d.degenerate .emptyUpdate ("update of " ++ d.tableName.display ++ " has no assignments")
  else []) ++
  (if d.primaryColumn?.isNone then
    d.degenerate .missingPrimaryKey
      ("update of " ++ d.tableName.display ++ " has no primary key to match on")
  else [])

def sqlUpdate (d : Descriptor) (data : Value) : Observed String := do
  let columns ← Observed.lift (d.updateColumns data)
  Observed.emit (d.updateEvents columns)
  let table ← Observed.lift d.sqlName
  d.publish .update (d.updateText table columns)

end TableSchema.Descriptor
