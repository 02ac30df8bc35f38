import TableSchema.Binary64.Shortest

/-!
Doubles as text. Positional notation is used from 10^-4 up to 10^16, always with a digit after the
point; beyond, one digit stands before the point and the exponent has a sign and two digits or more.
-/

namespace TableSchema

namespace Decimal

/-- Zeros at the end of the significand say nothing. -/
def significantDigits (n : Nat) : List Char :=
  ((Nat.toDigits 10 n).reverse.dropWhile (· = '0')).reverse

/-- The number `0.d₁d₂… · 10 ^ point` for `digits = d₁d₂…`, without an exponent. -/
def positional (digits : List Char) (point : Int) : List Char :=
  if point ≤ 0 then
    '0' :: '.' :: List.replicate (-point).toNat '0' ++ digits
  else if digits.length ≤ point.toNat then
    digits ++ List.replicate (point.toNat - digits.length) '0' ++ ['.', '0']
  else digits.take point.toNat ++ '.' :: digits.drop point.toNat

def exponentChars (exponent : Int) : List Char :=
  let digits := Nat.toDigits 10 exponent.natAbs
  (if exponent < 0 then '-' else '+') ::
    if digits.length < 2 then '0' :: digits else digits

def scientific (digits : List Char) (exponent : Int) : List Char :=
  let fraction := digits.drop 1
  digits.take 1 ++ (if fraction.isEmpty then [] else '.' :: fraction) ++
    'e' :: exponentChars exponent

def chars (d : Decimal) : List Char :=
  let point := (Nat.toDigits 10 d.significand).length + d.exponent
  let digits := significantDigits d.significand
  if -4 < point ∧ point ≤ 16 then positional digits point else scientific digits (point - 1)

example : chars ⟨1, 0⟩ = "1.0".toList := by decide
example : chars ⟨25, -6⟩ = "2.5e-05".toList := by decide
example : chars ⟨1, 16⟩ = "1e+16".toList := by decide

end Decimal

namespace Binary64

def chars : Binary64 → List Char
  | nan => ['n', 'a', 'n']
  | infinite negative => (if negative then ['-'] else []) ++ ['i', 'n', 'f']
  | finite negative units =>
    (if negative then ['-'] else []) ++
      if units = 0 then ['0', '.', '0'] else (shortest units).chars

def text (x : Binary64) : String :=
  String.ofList x.chars

@[simp] theorem toList_text (x : Binary64) : x.text.toList = x.chars :=
  String.toList_ofList

end Binary64

end TableSchema
