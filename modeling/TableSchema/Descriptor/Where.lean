import TableSchema.Descriptor.Projection

/-!
`WHERE` clauses. Filters are joined by `AND`; without filters there is no clause.
-/

namespace TableSchema.Descriptor

/-- The column that a filter is about. An alias goes before a name. -/
def filterColumn (d : Descriptor) (f : Filter) : Except Fault String :=
  if f.aliasName.isNull then .ok (d.reference f.column.display)
  else (fun s => d.reference (d.aliasToColumnName s)) <$> f.aliasName.requireText .beginning

/-- A null value is compared by `IS NOT` if the filter says so and else by `IS`. -/
def nullTest (operator : String) : String :=
  if Text.upper operator = "IS NOT" then "IS NOT NULL" else "IS NULL"

/-- What a filter asks of its column. -/
def filterTest (f : Filter) : Except Fault String :=
  if f.value.isNull then nullTest <$> f.comparison.requireText .upperCase
  else .ok (f.comparison.display ++ " " ++ Literal.ofFilter f.value)

def condition (d : Descriptor) (f : Filter) : Except Fault String := do
  let column ← d.filterColumn f
  let test ← filterTest f
  return column ++ " " ++ test

def whereText : List String → String
  | [] => ""
  | conditions => " WHERE " ++ " AND ".intercalate conditions

/-- Every filter is read before any is rendered. -/
def whereClause (d : Descriptor) (filters : Value) : Except Fault String := do
  let filters ← Filter.listOf filters
  let conditions ← filters.mapM d.condition
  return whereText conditions

end TableSchema.Descriptor
