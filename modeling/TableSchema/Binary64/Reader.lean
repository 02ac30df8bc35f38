import TableSchema.Binary64.Basic
import TableSchema.Text.Blank
import TableSchema.Text.Digit

/-!
Doubles read from text: the double nearest to the decimal that is written, an even significand where
two are equally near. Blanks other than the information separators may stand around a number, and
single underscores between its digits, which may be those of any script.
-/

namespace TableSchema.Binary64

/-- A number of least units rounded to one that fits into 53 bits, where `num / den` is given. -/
def roundUnits (num den : Nat) : Nat :=
  let shift := (num / den).log2 - 52
  let step := den <<< shift
  let floor := num / step
  let rest := num % step
  let up := step < 2 * rest || (step = 2 * rest && floor % 2 = 1)
  (if up then floor + 1 else floor) <<< shift

/-- What is past the largest finite double is infinite. -/
def ofUnits (negative : Bool) (units : Nat) : Binary64 :=
  if units < Nat.pow 2 2098 then finite negative units else infinite negative

/-- The double nearest to `significand · 10 ^ exponent`. Numbers far out of range are recognised by
their digits alone. -/
def ofDecimal (negative : Bool) (significand : Nat) (exponent : Int) : Binary64 :=
  let magnitude := (Nat.toDigits 10 significand).length + exponent
  if significand = 0 || magnitude < -330 then finite negative 0
  else if 310 < magnitude then infinite negative
  else
    let units := significand * unitsPerOne
    ofUnits negative <|
      if exponent < 0 then roundUnits units (Nat.pow 10 exponent.natAbs)
      else roundUnits (units * Nat.pow 10 exponent.natAbs) 1

/-- Takes the underscores out, each of which has to stand between two digits. -/
def joinDigits (afterDigit : Bool) : List Char → Option (List Char)
  | [] => some []
  | c :: cs =>
    if c = '_' then
      if afterDigit && cs.head?.any Char.isDigit then joinDigits false cs else none
    else (c :: ·) <$> joinDigits c.isDigit cs

/-- The value of a row of digits. -/
def natOf (digits : List Char) : Nat :=
  digits.foldl (fun n c => 10 * n + (c.toNat - '0'.toNat)) 0

/-- A blank that may stand around a number: any but the four information separators. -/
def isPadding (c : Char) : Bool :=
  Text.isBlank c && !(0x1C ≤ c.toNat && c.toNat ≤ 0x1F)

/-- The text without what may stand around a number. -/
def unpadded (cs : List Char) : List Char :=
  ((cs.dropWhile isPadding).reverse.dropWhile isPadding).reverse

/-- The sign that a number may begin with, and what follows it. -/
def splitSign : List Char → Bool × List Char
  | '-' :: cs => (true, cs)
  | '+' :: cs => (false, cs)
  | cs => (false, cs)

/-- An exponent, which may be missing. -/
def readExponent? : List Char → Option Int
  | [] => some 0
  | c :: cs =>
    let (negative, digits) := splitSign cs
    if c = 'e' && !digits.isEmpty && digits.all Char.isDigit then
      some (if negative then -(natOf digits : Int) else natOf digits)
    else none

/-- Digits, at most one point among them, and an exponent. -/
def readDecimal? (negative : Bool) (cs : List Char) : Option Binary64 := do
  let whole := cs.takeWhile Char.isDigit
  let afterWhole := cs.dropWhile Char.isDigit
  let afterPoint := if afterWhole.head? = some '.' then afterWhole.drop 1 else []
  let fraction := afterPoint.takeWhile Char.isDigit
  let tail := if afterWhole.head? = some '.' then afterPoint.dropWhile Char.isDigit else afterWhole
  guard (!(whole ++ fraction).isEmpty)
  let exponent ← readExponent? tail
  return ofDecimal negative (natOf (whole ++ fraction)) (exponent - fraction.length)

/-- Reads a number, an infinity or `nan`, in any case. -/
def read? (s : String) : Option Binary64 := do
  let cs ← joinDigits false ((unpadded s.toList).map fun c => (Text.asciiDigit c).toLower)
  let (negative, body) := splitSign cs
  if body = "nan".toList then return nan
  else if body = "inf".toList || body = "infinity".toList then return infinite negative
  else readDecimal? negative body

example : read? " -1_0.5e1 " = read? "-105" := by decide +kernel
example : read? "1__0" = none := by decide
example : read? "\x1c1" = none := by decide

end TableSchema.Binary64
