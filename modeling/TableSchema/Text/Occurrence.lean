/-!
Phrases inside a text: whether one occurs, and how often when the occurrences may not overlap and
are taken from the left.
-/

namespace TableSchema.Text

def occurs (phrase : List Char) : List Char → Bool
  | [] => phrase.isEmpty
  | c :: cs => phrase.isPrefixOf (c :: cs) || occurs phrase cs

/-- Occurrences of a phrase in what is left once the first `skip` characters are passed over. -/
def occurrencesFrom (phrase : List Char) : Nat → List Char → Nat
  | _, [] => 0
  | skip + 1, _ :: cs => occurrencesFrom phrase skip cs
  | 0, c :: cs =>
    if phrase.isPrefixOf (c :: cs) then
      occurrencesFrom phrase (phrase.length - 1) cs + 1
    else occurrencesFrom phrase 0 cs

def occurrences (phrase cs : List Char) : Nat :=
  occurrencesFrom phrase 0 cs

example : occurrences "aa".toList "aaaaa".toList = 2 := by decide

end TableSchema.Text
