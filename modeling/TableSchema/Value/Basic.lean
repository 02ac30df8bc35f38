import TableSchema.Binary64.Printer

/-!
Values, as descriptions are made of: scalars, lists, records with named entries, and parts that are
built already. A name, a flag or a default may be any of them, and is held as it was supplied.
-/

namespace TableSchema

/-- What a description has parts of. -/
inductive Part
  | enumValue
  | column
  | foreignKey
  | filter
  deriving DecidableEq, Repr

def Part.name : Part → String
  | enumValue => "EnumValue"
  | column => "Column"
  | foreignKey => "ForeignKey"
  | filter => "Filter"

/-- The fields of a part, in order. -/
def Part.fieldNames : Part → List String
  | enumValue => ["value", "label"]
  | column => ["name", "sql_type", "primary_key", "nullable", "auto_increment", "foreign_key",
      "default_value", "enum_values"]
  | foreignKey => ["local_column", "referenced_table", "referenced_column", "on_delete",
      "on_update"]
  | filter => ["column", "alias", "operator", "value"]

/-- The fields that a part cannot be built without. -/
def Part.requiredFields : Part → List String
  | enumValue => ["value"]
  | column => ["name"]
  | foreignKey => ["local_column", "referenced_table", "referenced_column"]
  | filter => []

inductive Value
  | null
  | bool (b : Bool)
  | int (n : Int)
  | float (x : Binary64)
  | text (s : String)
  | list (items : List Value)
  /-- A list that a part holds, which nothing is ever added to. -/
  | row (items : List Value)
  | record (entries : List (String × Value))
  /-- A part that is built already, with all its fields in order. -/
  | part (part : Part) (fields : List (String × Value))

namespace Value

inductive Kind
  | null
  | bool
  | int
  | float
  | text
  | list
  | row
  | record
  | part (part : Part)
  deriving DecidableEq, Repr

/-- The name of a kind of value in messages. -/
def Kind.name : Kind → String
  | null => "NoneType"
  | bool => "bool"
  | int => "int"
  | float => "float"
  | text => "str"
  | list => "list"
  | row => "tuple"
  | record => "dict"
  | part p => p.name

def kind : Value → Kind
  | null => .null
  | bool _ => .bool
  | int _ => .int
  | float _ => .float
  | text _ => .text
  | list _ => .list
  | row _ => .row
  | record _ => .record
  | part p _ => .part p

/-- Everything counts as true but nothing, falsehood, zero and what is empty. -/
def isTrue : Value → Bool
  | null => false
  | bool b => b
  | int n => n != 0
  | float x => !x.isZero
  | text s => s != ""
  | list items | row items => !items.isEmpty
  | record entries => !entries.isEmpty
  | part .. => true

def isNull : Value → Bool
  | null => true
  | _ => false

/-- A number in its own right, which a truth value is not. -/
def isNumber : Value → Bool
  | int _ => true
  | float _ => true
  | _ => false

/-- The integer that a value stands for in comparisons. -/
def integer? : Value → Option Int
  | bool b => some (if b then 1 else 0)
  | int n => some n
  | _ => none

def text? : Value → Option String
  | text s => some s
  | _ => none

/-- The items of a list or row; anything else stands for itself alone. -/
def oneOrMore : Value → List Value
  | list items | row items => items
  | value => [value]

/-- The first of two values, unless it does not count as true. -/
def orElse (value default : Value) : Value :=
  if value.isTrue then value else default

def ofText? : Option String → Value
  | some s => text s
  | none => null

theorem isNull_iff (value : Value) : value.isNull = true ↔ value = null := by
  cases value <;> simp [isNull]

@[simp] theorem isTrue_bool (b : Bool) : (bool b).isTrue = b := rfl

@[simp] theorem text?_eq_some_iff (value : Value) (s : String) :
    value.text? = some s ↔ value = text s := by
  cases value <;> simp [text?]

end Value

end TableSchema
