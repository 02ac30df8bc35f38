import TableSchema.Binary64.Basic

/-!
The shortest decimal that reads back as a given double. A decimal reads back when it lies in the
rounding interval: between the midpoints to the two neighbouring doubles, ends included for an even
significand. The grids of one, two, … seventeen digits are tried in turn; on the first grid with a
point inside, the nearest one is taken, an exact tie going to the even digit.

Everything is counted in quarters of 10^-1074, in which doubles, midpoints and grid points are
whole numbers.
-/

namespace TableSchema

/-- A decimal number, `significand · 10 ^ exponent`. -/
structure Decimal where
  significand : Nat
  exponent : Int
  deriving DecidableEq, Repr

namespace Binary64

/-- The least unit of doubles, 2^-1074, counted in 10^-1074. -/
def leastUnit : Nat := Nat.pow 5 1074

/-- A positive double and its rounding interval, in quarters of 10^-1074. -/
structure Rounding where
  value : Nat
  low : Nat
  high : Nat
  closed : Bool
  deriving DecidableEq, Repr

/-- Below a power of two the next double is half as far away as above it, the least powers apart. -/
def Rounding.ofUnits (units : Nat) : Rounding :=
  let shift := units.log2 - 52
  let significand := units >>> shift
  let value := 4 * (units * leastUnit)
  let gap := leastUnit <<< shift
  let below := if significand = Nat.pow 2 52 ∧ 0 < shift then gap else 2 * gap
  ⟨value, value - below, value + 2 * gap, significand % 2 = 0⟩

def Rounding.holds (r : Rounding) (n : Nat) : Bool :=
  if r.closed then r.low ≤ n && n ≤ r.high else r.low < n && n < r.high

/-- The nearest multiple of `4 · grid` inside the interval, as a multiple. -/
def Rounding.nearest? (r : Rounding) (grid : Nat) : Option Nat :=
  let step := 4 * grid
  let floor := r.value / step
  let below := r.holds (floor * step)
  let above := r.holds ((floor + 1) * step)
  if below && above then
    let down := r.value - floor * step
    let up := (floor + 1) * step - r.value
    if down < up || (down = up && floor % 2 = 0) then some floor else some (floor + 1)
  else if below then some floor
  else if above then some (floor + 1)
  else none

theorem Rounding.holds_of_nearest? {r : Rounding} {grid n : Nat} (h : r.nearest? grid = some n) :
    r.holds (n * (4 * grid)) = true := by
  grind [Rounding.nearest?]

def decimalDigits (n : Nat) : Nat :=
  (Nat.toDigits 10 n).length

/-- The shortest decimal for a positive number of least units. -/
def shortest (units : Nat) : Decimal :=
  let r := Rounding.ofUnits units
  let size := decimalDigits (units * leastUnit)
  ((List.range 17).findSome? fun i =>
    (r.nearest? (Nat.pow 10 (size - (i + 1)))).map fun significand =>
      (⟨significand, (size - (i + 1) : Nat) - 1074⟩ : Decimal)).getD
    ⟨units * leastUnit, -1074⟩

end Binary64

end TableSchema
