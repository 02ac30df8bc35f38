import TableSchema.Text.Keyword

/-!
Signs of an `UPDATE` that was generated without assignments or without a primary key.
-/

namespace TableSchema.Verification

open Text

/-- The words `SET` and `WHERE` with blanks alone between them, so that nothing is assigned. -/
def isEmptySet (cs : List Char) : Bool :=
  (do
    let cs ← dropKeyword? "SET".toList cs
    let cs ← dropBlanks? cs
    dropKeyword? "WHERE".toList cs).any atWordEnd

/-- The condition `WHERE null = $null`, with blanks around the sign or none. -/
def isNullKey (cs : List Char) : Bool :=
  (do
    let cs ← dropKeyword? "WHERE".toList cs
    let cs ← dropBlanks? cs
    let cs ← dropKeyword? "NULL".toList cs
    let cs ← dropChars? ['='] (cs.dropWhile isBlank)
    let cs ← dropChars? ['$'] (cs.dropWhile isBlank)
    dropKeyword? "NULL".toList cs).any atWordEnd

def hasEmptySet (cs : List Char) : Bool :=
  wordStartSatisfies isEmptySet false cs

def hasNullKey (cs : List Char) : Bool :=
  wordStartSatisfies isNullKey false cs

example : hasEmptySet "update t set\n where x".toList = true := by decide
example : hasNullKey "where null=$null".toList = true := by decide
example : hasNullKey "where null = $nullable".toList = false := by decide

end TableSchema.Verification
