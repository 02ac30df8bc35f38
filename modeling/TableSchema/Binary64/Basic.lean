/-!
Double precision numbers as exact data. Every finite one is a whole number of least units, 2^-1074,
with a sign of its own, so that comparison with integers is exact arithmetic.
-/

namespace TableSchema

inductive Binary64
  | nan
  | infinite (negative : Bool)
  | finite (negative : Bool) (units : Nat)
  deriving DecidableEq, Repr

namespace Binary64

/-- The number of least units in one. -/
def unitsPerOne : Nat := Nat.pow 2 1074

/-- Zero, of either sign, and nothing else. -/
def isZero : Binary64 → Bool
  | finite _ 0 => true
  | _ => false

/-- The signed number of least units, where there is one. -/
def units? : Binary64 → Option Int
  | finite negative units => some (if negative then -(units : Int) else units)
  | _ => none

/-- Numeric equality: the two zeros are equal, and `nan` equals nothing. -/
def same : Binary64 → Binary64 → Bool
  | infinite a, infinite b => a == b
  | finite a m, finite b n => (finite a m).units? == (finite b n).units?
  | _, _ => false

/-- Numeric equality with an integer. -/
def sameInt (x : Binary64) (n : Int) : Bool :=
  x.units? == some (n * unitsPerOne)

end Binary64

end TableSchema
