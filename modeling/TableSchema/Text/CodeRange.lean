/-!
Tables of characters. A class of characters is a list of runs of code points; a case map is a list
of runs whose members, one or two apart, all move by the same amount.
-/

namespace TableSchema.Text

/-- The code points from `first` to `last`, both included. -/
structure CodeRange where
  first : Nat
  last : Nat
  deriving DecidableEq, Repr

def CodeRange.holds (r : CodeRange) (n : Nat) : Bool :=
  r.first ≤ n && n ≤ r.last

theorem CodeRange.holds_iff (r : CodeRange) (n : Nat) :
    r.holds n = true ↔ r.first ≤ n ∧ n ≤ r.last := by
  simp [CodeRange.holds]

/-- Some run of the table holds the code point. -/
def inRanges (table : List CodeRange) (n : Nat) : Bool :=
  table.any (·.holds n)

theorem inRanges_iff (table : List CodeRange) (n : Nat) :
    inRanges table n = true ↔ ∃ r ∈ table, r.first ≤ n ∧ n ≤ r.last := by
  simp [inRanges, CodeRange.holds_iff]

/-- The code points `first, first + step, …, last`, the first of which is sent to `target` and the
others to equally distant places. -/
structure CaseRun where
  first : Nat
  last : Nat
  step : Nat
  target : Nat
  deriving DecidableEq, Repr

def CaseRun.image? (r : CaseRun) (n : Nat) : Option Nat :=
  if r.first ≤ n ∧ n ≤ r.last ∧ (n - r.first) % r.step = 0 then
    some (r.target + (n - r.first))
  else none

/-- A code point that no run holds stays where it is. -/
def caseImage (table : List CaseRun) (n : Nat) : Nat :=
  (table.findSome? (·.image? n)).getD n

end TableSchema.Text
