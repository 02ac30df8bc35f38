import TableSchema.Text.Case
import TableSchema.Text.Keyword
import TableSchema.Text.Lines
import TableSchema.Text.Occurrence

/-!
The shape of a conditional block: `DO`, the mark `$$` at the end of its line, a body and the mark on
a line of its own.
-/

namespace TableSchema.Verification

open Text

/-- What follows the last line feed among the leading blanks. -/
def afterBlankLines? : List Char → Option (List Char)
  | [] => none
  | c :: cs =>
    if isBlank c then (afterBlankLines? cs).or (if c = '\n' then some cs else none) else none

/-- The text before the closing mark, which a semicolon may follow. -/
def beforeClosing? (cs : List Char) : Option (List Char) :=
  (dropEnd? "\n$$;".toList cs).or (dropEnd? "\n$$".toList cs)

/-- The text between the two marks, without the line ends next to them. -/
def blockBody? (cs : List Char) : Option (List Char) := do
  let cs ← beforeClosing? cs
  let cs ← dropChars? "DO".toList cs
  let cs ← dropBlanks? cs
  let cs ← dropChars? "$$".toList cs
  afterBlankLines? cs

/-- The lines that hold more than blanks, without the blanks at their ends. -/
def textLines (body : List Char) : List (List Char) :=
  ((lines body).map stripChars).filter (!·.isEmpty)

/-- The first line is `BEGIN` and the last one `END`. -/
def isFramed (body : List Char) : Bool :=
  ((textLines body).head?.any fun line => upperChars line == "BEGIN".toList) &&
    ((textLines body).getLast?.any fun line => upperChars line == "END".toList)

/-- As many conditions are opened as are closed. -/
def isBalanced (body : List Char) : Bool :=
  occurrences "IF NOT EXISTS".toList (upperChars body) ==
    occurrences "END IF;".toList (upperChars body)

example : blockBody? "DO $$\nBEGIN\nEND\n$$;".toList = some "BEGIN\nEND".toList := by decide
example : blockBody? "DO $$\n$$;".toList = none := by decide

end TableSchema.Verification
