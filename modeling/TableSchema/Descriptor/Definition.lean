import TableSchema.Descriptor.Projection

/-!
Statements that define the table: creating and dropping it, and adding its enum checks and foreign
keys. A constraint is added by a block that looks whether one of that name exists already.
-/

namespace TableSchema.Descriptor

/-- The events of having generated a statement. -/
def generated (d : Descriptor) (kind : StatementKind) (sql : String) : List Event :=
  .log ⟨.debug, .descriptor,
    "generated " ++ kind.text ++ " for " ++ d.tableName.display ++ ": " ++ sql⟩ ::
    Event.counted d.settings.metricsEnabled (.statements kind)

/-- Answers with a generated statement. -/
def publish (d : Descriptor) (kind : StatementKind) (sql : String) : Observed String := do
  Observed.emit (d.generated kind sql)
  return sql

def sqlType (d : Descriptor) (c : Column) : String :=
  if c.sqlType.isTrue then c.sqlType.display else d.settings.defaultSqlType

def columnDefinition (d : Descriptor) (c : Column) : String :=
  c.name.display ++ " " ++ d.sqlType c ++
    (if c.isPrimary then " PRIMARY KEY" else "") ++
    (if c.nullable.isTrue then " NULL" else "") ++
    (if c.autoIncrement.isTrue then " GENERATED ALWAYS AS IDENTITY" else "") ++
    (if c.defaultValue.isNull then "" else " DEFAULT " ++ Literal.ofDefault c.defaultValue)

def createTableText (d : Descriptor) (table : String) : String :=
  "CREATE TABLE IF NOT EXISTS " ++ table ++ " (" ++
    ", ".intercalate (d.columns.map d.columnDefinition) ++ ");"

def sqlCreateTable (d : Descriptor) : Observed String := do
  let table ← Observed.lift d.sqlName
  d.publish .createTable (d.createTableText table)

def dropTableText (table : String) : String :=
  "DROP TABLE IF EXISTS " ++ table ++ ";"

def sqlDropTable (d : Descriptor) : Observed String := do
  let table ← Observed.lift d.sqlName
  d.publish .dropTable (dropTableText table)

/-- A statement that runs only if the table has no constraint of the given name, in any case. -/
def conditionalBlock (table constraint statement : String) : String :=
  "\n".intercalate
    ["DO $$",
     "BEGIN",
     "  IF NOT EXISTS (",
     "    SELECT 1 FROM pg_constraint c",
     "    JOIN pg_class t ON c.conrelid = t.oid",
     "    WHERE lower(c.conname) = lower('" ++ constraint ++ "') AND t.relname = '" ++ table ++ "'",
     "  ) THEN",
     "    " ++ statement,
     "  END IF;",
     "END",
     "$$;"]

def enumConstraintName (table : String) (column : Value) : String :=
  table ++ "_" ++ column.display ++ "_enum_chk"

/-- Adds a named constraint to the table. -/
def addConstraintText (table constraint clause : String) : String :=
  "ALTER TABLE " ++ table ++ " ADD CONSTRAINT " ++ constraint ++ " " ++ clause ++ ";"

def enumCheck (column : Value) (values : List EnumValue) : String :=
  "CHECK (" ++ column.display ++ " IN (" ++
    ", ".intercalate (values.map fun e => Literal.ofEnum e.value) ++ "))"

def enumConstraintBlock (table : String) (column : Value) (values : List EnumValue) : String :=
  let name := enumConstraintName table column
  conditionalBlock table name (addConstraintText table name (enumCheck column values))

/-- The blocks of all enum columns, those with an empty value list included. -/
def enumConstraintBlocks (d : Descriptor) (table : String) : List String :=
  d.columns.filterMap fun c => c.enumValues.map (enumConstraintBlock table c.name)

def sqlCreateEnumConstraints (d : Descriptor) : Observed (List String) := do
  let table ← Observed.lift d.sqlName
  (d.enumConstraintBlocks table).mapM (d.publish .enumConstraint)

def foreignKeyConstraintName (table : String) (fk : ForeignKey) : String :=
  table ++ "_" ++ fk.localColumn.display ++ "_fk"

/-- An action that does not count as true is not written. -/
def actionText (event : String) (action : Value) : String :=
  if action.isTrue then " ON " ++ event ++ " " ++ action.display else ""

def foreignKeyClause (fk : ForeignKey) (referencedTable : String) : String :=
  "FOREIGN KEY (" ++ fk.localColumn.display ++ ") REFERENCES " ++ referencedTable ++ "(" ++
    fk.referencedColumn.display ++ ")" ++ actionText "DELETE" fk.onDelete ++
    actionText "UPDATE" fk.onUpdate

def foreignKeyBlock (table : String) (fk : ForeignKey) : Except Fault String := do
  let referencedTable ← lowerName fk.referencedTable
  let name := foreignKeyConstraintName table fk
  return conditionalBlock table name
    (addConstraintText table name (foreignKeyClause fk referencedTable))

/-- Blocks are generated one by one, up to the first foreign key to a table without a name. -/
def sqlCreateTableConstraints (d : Descriptor) : Observed (List String) := do
  let table ← Observed.lift d.sqlName
  d.constraints.mapM fun fk => do
    let block ← Observed.lift (foreignKeyBlock table fk)
    d.publish .foreignKeyConstraint block

end TableSchema.Descriptor
