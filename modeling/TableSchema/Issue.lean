import TableSchema.Code
import TableSchema.Value.Display
import TableSchema.Value.Equality

/-!
What validation reports. An issue is its cause; code, message and column follow from it.
-/

namespace TableSchema

inductive Issue
  /-- The names of all primary keys, the one in use first. -/
  | severalPrimaryKeys (used : String) (others : List String)
  | noPrimaryKey
  | duplicateColumn (column : Value)
  | emptyEnum (column : Value)
  | repeatedEnumValue (value column : Value)
  | unknownLocalColumn (column : Value)
  | unsupportedAction (action column : Value)
  /-- The operator of a filter on the given column. -/
  | unknownOperator (operator : String) (column : Value)
  deriving DecidableEq

namespace Issue

def code : Issue → Code
  | severalPrimaryKeys .. => .multiplePrimaryKeys
  | noPrimaryKey => .noPrimaryKey
  | duplicateColumn _ => .duplicateColumn
  | emptyEnum _ => .emptyEnum
  | repeatedEnumValue .. => .duplicateEnumValue
  | unknownLocalColumn _ => .unknownForeignKeyColumn
  | unsupportedAction .. => .invalidForeignKeyAction
  | unknownOperator .. => .unknownOperator

def message : Issue → String
  | severalPrimaryKeys used others =>
    "more than one primary key (" ++ ", ".intercalate (used :: others) ++ "); '" ++ used ++
      "' is used"
  | noPrimaryKey => "no primary key; UPDATE statements cannot be generated"
  | duplicateColumn column => "column '" ++ column.display ++ "' is declared more than once"
  | emptyEnum column => "column '" ++ column.display ++ "' has an empty enum value list"
  | repeatedEnumValue value column =>
    "enum value " ++ value.shown ++ " repeats on column '" ++ column.display ++ "'"
  | unknownLocalColumn column =>
    "foreign key references unknown local column '" ++ column.display ++ "'"
  | unsupportedAction action _ => "unsupported referential action " ++ action.shown
  | unknownOperator operator _ =>
    "operator " ++ Text.quoted operator ++
      " is not a known comparison; it is rendered verbatim"

/-- The column that the issue is about, by its name as it is held. -/
def column : Issue → Value
  | severalPrimaryKeys used _ => .text used
  | noPrimaryKey => .null
  | duplicateColumn column | emptyEnum column | repeatedEnumValue _ column
  | unknownLocalColumn column | unsupportedAction _ column | unknownOperator _ column => column

def isError (issue : Issue) : Bool :=
  issue.code.severity == .error

end Issue

end TableSchema
