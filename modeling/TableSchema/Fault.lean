import TableSchema.Issue

/-!
Reasons for which an operation gives no answer.
-/

namespace TableSchema

/-- What a value can be needed for that only values of some kinds allow. -/
inductive Use
  /-- Being written in lower case. -/
  | lowerCase
  | upperCase
  /-- Being asked what it begins with. -/
  | beginning
  | trimming
  /-- Being asked for an entry that it may lack. -/
  | entry
  /-- Being asked for an entry that it has to have. -/
  | field
  /-- Being gone through one by one. -/
  | elements
  /-- Being asked whether it contains something. -/
  | membership
  /-- Being sought in a text. -/
  | occurrence
  /-- Being sought among keys or in a set, which takes a value that cannot change. -/
  | lookup
  /-- Standing at the given place of a list of names that is written out. -/
  | joining (place : Nat)
  /-- Being the name of a log level. -/
  | levelName
  /-- Being read as a double. -/
  | number
  /-- Being the record of a call's arguments. -/
  | arguments (call : String)
  deriving DecidableEq, Repr

namespace Use

/-- The operation of text or of a record that a use calls for, where it is one. -/
def operation? : Use → Option String
  | lowerCase => some "lower"
  | upperCase => some "upper"
  | beginning => some "startswith"
  | trimming => some "strip"
  | entry => some "get"
  | _ => none

/-- What is said of a value of the given kind that does not allow the use. -/
def complaint (kind : Value.Kind) (use : Use) : String :=
  let quoted := "'" ++ kind.name ++ "'"
  match use with
  | field =>
    match kind with
    | .text => "string indices must be integers, not 'str'"
    | .list | .row => kind.name ++ " indices must be integers or slices, not str"
    | _ => quoted ++ " object is not subscriptable"
  | elements => quoted ++ " object is not iterable"
  | membership => "argument of type " ++ quoted ++ " is not iterable"
  | occurrence => "'in <string>' requires string as left operand, not " ++ kind.name
  | lookup => "unhashable type: " ++ quoted
  | joining place =>
    "sequence item " ++ place.repr ++ ": expected str instance, " ++ kind.name ++ " found"
  | levelName => "attribute name must be string, not " ++ quoted
  | number => "float() argument must be a string or a real number, not " ++ quoted
  | arguments call => call ++ "() argument after ** must be a mapping, not " ++ kind.name
  | other => quoted ++ " object has no attribute '" ++ (operation? other).getD "" ++ "'"

end Use

inductive Fault
  /-- A description lacks a key that it must have. -/
  | missingKey (key : String)
  /-- A call is given an argument that it does not know. -/
  | unexpectedArgument (call argument : String)
  /-- A call lacks arguments that it must have. -/
  | missingArguments (call : String) (arguments : List String)
  /-- A call that takes from `least` to `most` arguments is given more. -/
  | surplusArguments (call : String) (least most given : Nat)
  /-- A filter names neither a column nor an alias. -/
  | filterWithoutColumn
  /-- A value of the given kind stands where it does not allow the use. -/
  | unfit (kind : Value.Kind) (use : Use)
  /-- A text is read as a double but is none. -/
  | notANumber (text : String)
  /-- An integer past the largest finite double is read as one. -/
  | tooLarge
  | frozen (tableName : Value)
  | invalid (tableName : Value) (issues : List Issue)
  | unknownCode (code : Value)
  | noDescriptor (slot : String)
  deriving DecidableEq

namespace Fault

/-- Names in quotes, with commas and an "and" where there are several. -/
def enumeration : List String → String
  | [] => ""
  | [a] => "'" ++ a ++ "'"
  | [a, b] => "'" ++ a ++ "' and '" ++ b ++ "'"
  | names =>
    ", ".intercalate (names.dropLast.map fun a => "'" ++ a ++ "'") ++ ", and '" ++
      (names.getLast?.getD "") ++ "'"

def message : Fault → String
  | missingKey key => Text.quoted key
  | unexpectedArgument call argument =>
    call ++ "() got an unexpected keyword argument '" ++ argument ++ "'"
  | missingArguments call arguments =>
    call ++ "() missing " ++ arguments.length.repr ++ " required positional argument" ++
      (if arguments.length = 1 then ": " else "s: ") ++ enumeration arguments
  | surplusArguments call least most given =>
    call ++ "() takes " ++
      (if least = most then most.repr else "from " ++ least.repr ++ " to " ++ most.repr) ++
      " positional argument" ++ (if most = 1 then "" else "s") ++ " but " ++ given.repr ++
      " were given"
  | filterWithoutColumn => "Filter needs either 'column' or 'alias'"
  | unfit kind use => use.complaint kind
  | notANumber text => "could not convert string to float: " ++ Text.quoted text
  | tooLarge => "int too large to convert to float"
  | frozen tableName => "schema '" ++ tableName.display ++ "' is frozen and cannot be extended"
  | invalid tableName _ => "schema '" ++ tableName.display ++ "' failed validation"
  | unknownCode code => code.shown ++ " is not a valid ErrorCode"
  | noDescriptor slot => slot

/-- The issues that make a description invalid. -/
def errors : Fault → List Issue
  | invalid _ issues => issues.filter Issue.isError
  | _ => []

def code? : Fault → Option Code
  | frozen _ => some .schemaFrozen
  | invalid _ issues => (issues.find? Issue.isError).map Issue.code
  | _ => none

def details (fault : Fault) : List String :=
  fault.errors.map Issue.message

end Fault

end TableSchema
