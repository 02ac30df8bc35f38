/-!
Codes of everything that can be wrong with a table description, a filter or a statement, with
their severity.
-/

namespace TableSchema

inductive Severity
  | error
  | warning
  deriving DecidableEq, Repr

def Severity.text : Severity → String
  | .error => "error"
  | .warning => "warning"

inductive Code
  | multiplePrimaryKeys
  | noPrimaryKey
  | duplicateColumn
  | duplicateEnumValue
  | emptyEnum
  | unknownForeignKeyColumn
  | invalidForeignKeyAction
  | unknownOperator
  | emptyStatement
  | parseError
  | multipleStatements
  | schemaFrozen
  deriving DecidableEq, Repr

namespace Code

def all : List Code :=
  [multiplePrimaryKeys, noPrimaryKey, duplicateColumn, duplicateEnumValue, emptyEnum,
   unknownForeignKeyColumn, invalidForeignKeyAction, unknownOperator, emptyStatement, parseError,
   multipleStatements, schemaFrozen]

def text : Code → String
  | multiplePrimaryKeys => "MULTIPLE_PRIMARY_KEYS"
  | noPrimaryKey => "NO_PRIMARY_KEY"
  | duplicateColumn => "DUPLICATE_COLUMN"
  | duplicateEnumValue => "DUPLICATE_ENUM_VALUE"
  | emptyEnum => "EMPTY_ENUM"
  | unknownForeignKeyColumn => "UNKNOWN_FK_COLUMN"
  | invalidForeignKeyAction => "INVALID_FK_ACTION"
  | unknownOperator => "UNKNOWN_OPERATOR"
  | emptyStatement => "EMPTY_SQL"
  | parseError => "PARSE_ERROR"
  | multipleStatements => "MULTIPLE_STATEMENTS"
  | schemaFrozen => "SCHEMA_FROZEN"

def ofText? (s : String) : Option Code :=
  all.find? (·.text == s)

/-- A description with warnings only still gives valid statements. -/
def severity : Code → Severity
  | noPrimaryKey | duplicateEnumValue | emptyEnum | unknownOperator => .warning
  | _ => .error

end Code

/-- The severity of a code given by its text; what is not known is taken for an error. -/
def Severity.ofCodeText (code : Option String) : Severity :=
  ((code.bind Code.ofText?).map Code.severity).getD .error

end TableSchema
