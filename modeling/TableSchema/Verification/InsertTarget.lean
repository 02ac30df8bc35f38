import TableSchema.Text.Keyword

/-!
The column list of an `INSERT`. Target columns may not be qualified, so what stands before a point
is taken off each of them before a parser sees the statement.
-/

namespace TableSchema.Verification

open Text

def isIdentifier : List Char → Bool
  | [] => false
  | c :: cs => isIdentifierStart c && cs.all isIdentifierChar

/-- Removes each word that is an identifier together with the point behind it; `word` holds the
word characters just passed. -/
def dropQualifiersFrom (word : List Char) : List Char → List Char
  | [] => word
  | c :: cs =>
    if isWordChar c then dropQualifiersFrom (word ++ [c]) cs
    else if c = '.' && isIdentifier word then dropQualifiersFrom [] cs
    else word ++ c :: dropQualifiersFrom [] cs

def dropQualifiers (cs : List Char) : List Char :=
  dropQualifiersFrom [] cs

/-- What follows the parenthesis that opens the column list: after `INSERT INTO` come a blank, one
character or more of the table, and the parenthesis. -/
def columnList? (cs : List Char) : Option (List Char) := do
  let cs ← dropKeyword? "INSERT".toList cs
  let cs ← dropBlanks? cs
  let cs ← dropKeyword? "INTO".toList cs
  let table := cs.takeWhile (· != '(')
  guard (table.head?.any isBlank && 2 ≤ table.length)
  dropChars? ['('] (cs.dropWhile (· != '('))

/-- The statement with its column list unqualified, where it has one that is closed. -/
def unqualifyChars (cs : List Char) : List Char :=
  match columnList? cs with
  | none => cs
  | some rest =>
    let columns := rest.takeWhile (· != ')')
    let tail := rest.dropWhile (· != ')')
    if tail.isEmpty then cs
    else cs.take (cs.length - rest.length) ++ dropQualifiers columns ++ tail

def unqualify (sql : String) : String :=
  String.ofList (unqualifyChars sql.toList)

example : unqualify "insert into t AS a (a.x, b.c.y) VALUES (a.x)" =
    "insert into t AS a (x, y) VALUES (a.x)" := by decide

end TableSchema.Verification
