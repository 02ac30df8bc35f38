import TableSchema.Text.Blank
import TableSchema.Text.Word

/-!
Keywords at the head of a text, in any case. Besides its two ASCII cases, `I` is also written
dotted as a capital and undotted as a small letter, `K` as the kelvin sign and `S` as the long s.
-/

namespace TableSchema.Text

/-- The character is a form of the given capital letter. -/
def isFormOf (letter c : Char) : Bool :=
  c.toUpper = letter || (letter = 'I' && (c = 'İ' || c = 'ı')) ||
    (letter = 'K' && c = '\u212A') || (letter = 'S' && c = 'ſ')

/-- What follows the keyword, which is given in capitals. -/
def dropKeyword? : List Char → List Char → Option (List Char)
  | [], cs => some cs
  | _ :: _, [] => none
  | letter :: keyword, c :: cs => if isFormOf letter c then dropKeyword? keyword cs else none

/-- What follows one or more blanks. -/
def dropBlanks? (cs : List Char) : Option (List Char) :=
  if cs.head?.any isBlank then some (cs.dropWhile isBlank) else none

/-- What follows the given characters. -/
def dropChars? (expected cs : List Char) : Option (List Char) :=
  expected.isPrefixOf? cs

/-- What comes before the given characters at the end. -/
def dropEnd? (expected cs : List Char) : Option (List Char) :=
  (expected.reverse.isPrefixOf? cs.reverse).map List.reverse

/-- A word that has come to its end is not continued. -/
def atWordEnd (cs : List Char) : Bool :=
  !cs.head?.any isWordChar

/-- The pattern holds at some place that does not lie inside a word or right behind one; `afterWord`
says whether the text follows a word character. -/
def wordStartSatisfies (pattern : List Char → Bool) (afterWord : Bool) : List Char → Bool
  | [] => false
  | c :: cs =>
    (!afterWord && pattern (c :: cs)) || wordStartSatisfies pattern (isWordChar c) cs

end TableSchema.Text
