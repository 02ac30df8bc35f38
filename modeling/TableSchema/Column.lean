import TableSchema.EnumValue

/-!
Columns of a table. Everything but the enum values is held as it was supplied; a record's flags are
reduced to truth values when it is read.
-/

namespace TableSchema

structure Column where
  name : Value
  sqlType : Value := .null
  primaryKey : Value := .bool false
  nullable : Value := .bool false
  autoIncrement : Value := .bool false
  /-- For information only: a reference is declared by a `ForeignKey`. -/
  foreignKey : Value := .bool false
  defaultValue : Value := .null
  enumValues : Option (List EnumValue) := none
  deriving DecidableEq

namespace Column

def isPrimary (c : Column) : Bool :=
  c.primaryKey.isTrue

/-- Reads a column from its description; `name` is the one key that it must have. -/
def ofRecord (r : Record) : Except Fault Column := do
  let name ← r.require "name"
  let enumValues ← EnumValue.listOf (r.pick ["enum_values", "enumValues"])
  return {
    name
    sqlType := r.pick ["sql_type", "sqlType"]
    primaryKey := r.flag ["primary_key", "primaryKey"]
    nullable := r.flag ["nullable"]
    autoIncrement := r.flag ["auto_increment", "autoIncrement"]
    foreignKey := r.flag ["foreign_key", "foreignKey"]
    defaultValue := r.pick ["default_value", "defaultValue"]
    enumValues }

/-- Builds a column from its fields, with the flags left as they are. -/
def ofFields (r : Record) : Except Fault Column := do
  r.checkPart .column
  let enumValues ← EnumValue.listOf (r.pick ["enum_values"])
  let held (key : String) : Value := (r.get? key).getD (.bool false)
  return {
    name := r.pick ["name"]
    sqlType := r.pick ["sql_type"]
    primaryKey := held "primary_key"
    nullable := held "nullable"
    autoIncrement := held "auto_increment"
    foreignKey := held "foreign_key"
    defaultValue := r.pick ["default_value"]
    enumValues }

/-- Reads a column that is described or already built. -/
def ofValue : Value → Except Fault Column
  | .part .column fields => ofFields fields
  | .record r => ofRecord r
  | other => other.refuse .field

/-- The fields in order, the enum values in the form given. -/
def fields (c : Column) (enumValues : Value) : Record :=
  [("name", c.name),
   ("sql_type", c.sqlType),
   ("primary_key", c.primaryKey),
   ("nullable", c.nullable),
   ("auto_increment", c.autoIncrement),
   ("foreign_key", c.foreignKey),
   ("default_value", c.defaultValue),
   ("enum_values", enumValues)]

/-- The record that describes the column, and each of its enum values by a record. -/
def toRecord (c : Column) : Record :=
  c.fields (EnumValue.listValue c.enumValues)

def toValue (c : Column) : Value :=
  .part .column (c.fields (c.enumValues.elim .null fun es => .row (es.map EnumValue.toValue)))

end Column

end TableSchema
