import TableSchema.Value.Access

/-!
Filters: one comparison on a column, which is named directly or through its alias. A null value
asks whether the column is null.
-/

namespace TableSchema

structure Filter where
  column : Value := .null
  aliasName : Value := .null
  operator : Value := .text "="
  value : Value := .null
  deriving DecidableEq

namespace Filter

/-- The comparisons that are known, in upper case. -/
def knownOperators : List String :=
  ["=", "!=", "<", "<=", ">", ">=", "LIKE", "ILIKE", "IS", "IS NOT"]

/-- Admits a filter that names a column in one way or the other. -/
def checked (f : Filter) : Except Fault Filter :=
  if f.column.isNull && f.aliasName.isNull then .error .filterWithoutColumn else .ok f

/-- Reads a filter from its description; a missing operator is `=`. -/
def ofRecord (r : Record) : Except Fault Filter :=
  checked {
    column := r.pick ["column"]
    aliasName := r.pick ["alias"]
    operator := (r.get? "operator").getD (.text "=")
    value := r.pick ["value"] }

/-- Builds a filter from its fields. -/
def ofFields (r : Record) : Except Fault Filter := do
  r.checkPart .filter
  ofRecord r

/-- Reads a filter that is described or already built. -/
def ofValue : Value → Except Fault Filter
  | .part .filter fields => ofFields fields
  | .record r => ofRecord r
  | other => other.refuse .entry

/-- The filters to apply, read in order, where one or several are given. What does not count as true
asks for none. -/
def listOf (given : Value) : Except Fault (List Filter) :=
  if !given.isTrue then .ok []
  else
    match given with
    | .record _ | .part .filter _ => (fun f => [f]) <$> ofValue given
    | several => do
      let entries ← several.elements
      entries.mapM ofValue

def toRecord (f : Filter) : Record :=
  [("column", f.column),
   ("alias", f.aliasName),
   ("operator", f.operator),
   ("value", f.value)]

def toValue (f : Filter) : Value :=
  .part .filter f.toRecord

/-- The operator as it is rendered: one that does not count as true is `=`. -/
def comparison (f : Filter) : Value :=
  f.operator.orElse (.text "=")

theorem checked_eq_ok_iff (f g : Filter) :
    checked f = .ok g ↔ f = g ∧ (f.column.isNull = false ∨ f.aliasName.isNull = false) := by
  cases hc : f.column.isNull <;> cases ha : f.aliasName.isNull <;> simp [checked, hc, ha]

end Filter

end TableSchema
