import TableSchema.Value.Display

/-!
Values as SQL literals. Text stands between single quotes with every quote inside it doubled.
-/

namespace TableSchema.Literal

def doubleQuotes : List Char → List Char
  | [] => []
  | c :: cs => if c = '\'' then '\'' :: '\'' :: doubleQuotes cs else c :: doubleQuotes cs

def quotedChars (cs : List Char) : List Char :=
  '\'' :: doubleQuotes cs ++ ['\'']

/-- The text as a string literal. -/
def quote (s : String) : String :=
  String.ofList (quotedChars s.toList)

@[simp] theorem toList_quote (s : String) : (quote s).toList = quotedChars s.toList :=
  String.toList_ofList

/-- The literal of a column's `DEFAULT` clause. -/
def ofDefault : Value → String
  | .text s => quote s
  | .bool b => if b then "true" else "false"
  | value => value.display

/-- The literal of an enum value, in `CHECK` constraints and `CASE` expressions. -/
def ofEnum (value : Value) : String :=
  if value.isNumber then value.display else quote value.display

/-- The literal of a filter value that is not null. -/
def ofFilter : Value → String
  | .bool b => if b then "TRUE" else "FALSE"
  | value => if value.isNumber then value.display else quote value.display

def escapeDoubleQuotes : List Char → List Char
  | [] => []
  | c :: cs => if c = '"' then '\\' :: '"' :: escapeDoubleQuotes cs else c :: escapeDoubleQuotes cs

/-- The label of a value that has none of its own: `Value "…"`. -/
def fallbackLabel (value : Value) : String :=
  "Value \"" ++ String.ofList (escapeDoubleQuotes value.display.toList) ++ "\""

/-- The literal that a `CASE` expression shows for an enum value. -/
def ofLabel (value label : Value) : String :=
  quote (if label.isTrue then label.display else fallbackLabel value)

example : ofEnum (.text "it's") = "'it''s'" := by decide
example : ofLabel (.text "a\"b") .null = "'Value \"a\\\"b\"'" := by decide

end TableSchema.Literal
