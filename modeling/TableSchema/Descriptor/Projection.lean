import TableSchema.Descriptor.Basic
import TableSchema.Literal

/-!
How a descriptor's table and columns are referred to: by the bare name, by the name after the alias
and a point, and by the name after the alias and an underscore.
-/

namespace TableSchema.Descriptor

/-- The table's name as statements write it, in lower case. -/
def sqlName (d : Descriptor) : Except Fault String :=
  lowerName d.tableName

def tableText (d : Descriptor) (lowered : Bool) : Except Fault Value :=
  if lowered then Value.text <$> d.sqlName else .ok d.tableName

/-- The columns in declaration order, primary keys among them only if asked for. -/
def selected (d : Descriptor) (withPrimary : Bool) : List Column :=
  d.columns.filter fun c => withPrimary || !c.isPrimary

/-- A column as statements refer to it: `alias.name`. -/
def reference (d : Descriptor) (name : String) : String :=
  d.aliasName ++ "." ++ name

/-- A column as data and results refer to it: `alias_name`. -/
def prefixed (d : Descriptor) (name : String) : String :=
  d.aliasName ++ "_" ++ name

def columnAliases (d : Descriptor) (withPrimary : Bool) : List String :=
  (d.selected withPrimary).map fun c => d.prefixed c.name.display

def columnNames (d : Descriptor) (withPrimary : Bool) : List String :=
  (d.selected withPrimary).map fun c => d.reference c.name.display

/-- The `CASE` expression that shows a label for each enum value. -/
def enumExpression (d : Descriptor) (column : Value) (values : List EnumValue) : String :=
  let ref := d.reference column.display
  let arm (e : EnumValue) : String :=
    "WHEN " ++ ref ++ " = " ++ Literal.ofEnum e.value ++ " THEN " ++ Literal.ofLabel e.value e.label
  "CASE " ++ " ".intercalate (values.map arm) ++ " ELSE 'Value \"' || " ++ ref ++ " || '\"' END"

/-- What a column is called in a result, the quotes included. -/
def outputName (d : Descriptor) (c : Column) (useLabels : Bool) : String :=
  let suffix := if useLabels && c.enumValues.isSome then "_label" else ""
  "\"" ++ d.prefixed c.name.display ++ suffix ++ "\""

/-- A column of a `SELECT` list, as an enum label where labels are asked for. -/
def columnField (d : Descriptor) (useLabels : Bool) (c : Column) : String :=
  let source := match useLabels, c.enumValues with
    | true, some values => d.enumExpression c.name values
    | _, _ => d.reference c.name.display
  source ++ " AS " ++ d.outputName c useLabels

def columnFields (d : Descriptor) (withPrimary useLabels : Bool) : List String :=
  (d.selected withPrimary).map (d.columnField useLabels)

/-- The first primary key column. -/
def primaryColumn? (d : Descriptor) : Option Column :=
  d.columns.find? Column.isPrimary

def primaryKey? (d : Descriptor) (useAlias : Bool) : Option String :=
  d.primaryColumn?.map fun c =>
    if useAlias then d.prefixed c.name.display else d.reference c.name.display

/-- Takes the alias and the underscore off; what does not begin with them is left as it is. -/
def aliasToColumnName (d : Descriptor) (s : String) : String :=
  match (d.prefixed "").toList.isPrefixOf? s.toList with
  | some rest => String.ofList rest
  | none => s

end TableSchema.Descriptor
