import TableSchema.Column
import TableSchema.Filter
import TableSchema.ForeignKey
import TableSchema.Journal
import TableSchema.Settings

/-!
What is wrong with a table description: its primary key, its column names, its enum values and its
foreign keys, in this order. Nothing is rejected; every issue is logged and counted.
-/

namespace TableSchema.Validation

/-- The texts that values are, which stand from the given place on in a list of names. -/
def nameTexts (place : Nat) : List Value → Except Fault (List String)
  | [] => .ok []
  | .text s :: names => (s :: ·) <$> nameTexts (place + 1) names
  | name :: _ => name.refuse (.joining place)

/-- Exactly one column has to be the primary key. Naming several takes a text for each. -/
def primaryKeyIssues (columns : List Column) : Except Fault (List Issue) :=
  match (columns.filter Column.isPrimary).map Column.name with
  | [] => .ok [.noPrimaryKey]
  | [_] => .ok []
  | names => do
    match ← nameTexts 0 names with
    | [] => return []
    | used :: others => return [.severalPrimaryKeys used others]

/-- The values that equal one before them, where `earlier` holds those before the list. -/
def repeatedValueIssues (column : Value) (earlier : List Value) : List EnumValue → List Issue
  | [] => []
  | e :: es =>
    (if earlier.any e.value.same then [.repeatedEnumValue e.value column] else []) ++
      repeatedValueIssues column (e.value :: earlier) es

def enumIssues (c : Column) : List Issue :=
  match c.enumValues with
  | none => []
  | some [] => [.emptyEnum c.name]
  | some es => repeatedValueIssues c.name [] es

/-- The issues of each column by itself, where `seen` holds the names before the list. -/
def columnIssues (seen : List Value) : List Column → List Issue
  | [] => []
  | c :: cs =>
    (if seen.any c.name.same then [.duplicateColumn c.name] else []) ++ enumIssues c ++
      columnIssues (c.name :: seen) cs

/-- An action that is not null has to be a known one. -/
def actionIssues (column action : Value) : List Issue :=
  if action.isNull || action.text?.any ForeignKey.knownActions.contains then []
  else [.unsupportedAction action column]

def foreignKeyIssues (columns : List Column) (fk : ForeignKey) : List Issue :=
  (if columns.any (·.name.same fk.localColumn) then [] else [.unknownLocalColumn fk.localColumn]) ++
    actionIssues fk.localColumn fk.onDelete ++ actionIssues fk.localColumn fk.onUpdate

/-- Names that are compared have to be such that can be looked up. -/
def issues (columns : List Column) (constraints : List ForeignKey) :
    Except Fault (List Issue) := do
  let keys ← primaryKeyIssues columns
  columns.forM fun c => c.name.checkLookup
  constraints.forM fun fk => fk.localColumn.checkLookup
  return keys ++ columnIssues [] columns ++ constraints.flatMap (foreignKeyIssues columns)

/-- How an issue is logged and counted. -/
def events (settings : Settings) (issue : Issue) : List Event :=
  .log ⟨.warning, .validator, issue.code.text ++ ": " ++ issue.message⟩ ::
    Event.counted settings.metricsEnabled (.issues issue.code)

def validate (settings : Settings) (columns : List Column) (constraints : List ForeignKey) :
    Observed (List Issue) := do
  let found ← Observed.lift (issues columns constraints)
  Observed.emit (found.flatMap (events settings))
  return found

/-- A filter has to use a known comparison, in any case. -/
def filterIssues (f : Filter) : Except Fault (List Issue) := do
  let operator ← f.comparison.requireText .upperCase
  if Filter.knownOperators.contains (Text.upper operator) then return []
  else return [.unknownOperator operator (f.column.orElse f.aliasName)]

def checkFilter (settings : Settings) (filter : Value) : Observed (List Issue) := do
  let f ← Observed.lift (Filter.ofValue filter)
  let found ← Observed.lift (filterIssues f)
  Observed.emit (found.flatMap (events settings))
  return found

end TableSchema.Validation
