import TableSchema.Text.Quoted
import TableSchema.Value.Basic

/-!
Values as text. Text stands for itself, but inside another value, and wherever a message shows it,
it is quoted.
-/

namespace TableSchema.Value

mutual

/-- The value as messages show it. Integers are written out whatever their length: the limit that can be
set on the number of digits is left out. -/
def shown : Value → String
  | null => "None"
  | bool true => "True"
  | bool false => "False"
  | int n => n.repr
  | float x => x.text
  | text s => Text.quoted s
  | list items => "[" ++ ", ".intercalate (shownItems items) ++ "]"
  | row [item] => "(" ++ item.shown ++ ",)"
  | row items => "(" ++ ", ".intercalate (shownItems items) ++ ")"
  | record entries => "\x7b" ++ ", ".intercalate (shownEntries entries) ++ "\x7d"
  | part p fields => p.name ++ "(" ++ ", ".intercalate (shownFields fields) ++ ")"

def shownItems : List Value → List String
  | [] => []
  | value :: values => value.shown :: shownItems values

def shownEntries : List (String × Value) → List String
  | [] => []
  | (key, value) :: entries => (Text.quoted key ++ ": " ++ value.shown) :: shownEntries entries

def shownFields : List (String × Value) → List String
  | [] => []
  | (key, value) :: fields => (key ++ "=" ++ value.shown) :: shownFields fields

end

/-- The value as plain text. -/
def display : Value → String
  | text s => s
  | value => value.shown

@[simp] theorem display_text (s : String) : (text s).display = s := rfl

example : (list [int 1, text "a'b", null]).display = "[1, \"a'b\", None]" := by decide
example : (record [("a", bool true)]).display = "\x7b'a': True\x7d" := by decide

end TableSchema.Value
