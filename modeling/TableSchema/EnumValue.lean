import TableSchema.Value.Access

/-!
Enum values: what an enum column may hold, with the labels shown for it.
-/

namespace TableSchema

structure EnumValue where
  value : Value
  label : Value := .null
  deriving DecidableEq

namespace EnumValue

/-- Reads an enum value from its description; `value` is the one key that it must have. -/
def ofRecord (r : Record) : Except Fault EnumValue := do
  let value ← r.require "value"
  return ⟨value, r.pick ["label"]⟩

/-- Builds an enum value from its fields. -/
def ofFields (r : Record) : Except Fault EnumValue := do
  r.checkPart .enumValue
  return ⟨r.pick ["value"], r.pick ["label"]⟩

/-- Reads an enum value that is described or already built. -/
def ofValue : Value → Except Fault EnumValue
  | .part .enumValue fields => ofFields fields
  | .record r => ofRecord r
  | other => other.refuse .field

def toRecord (e : EnumValue) : Record :=
  [("value", e.value), ("label", e.label)]

def toValue (e : EnumValue) : Value :=
  .part .enumValue e.toRecord

theorem ofRecord_toRecord (e : EnumValue) : ofRecord e.toRecord = .ok e := by
  simp [ofRecord, toRecord, Record.require, Record.pick, Record.pick?_cons, Record.get?_cons,
    bind, Except.bind, pure, Except.pure]

/-- An enum value list, or `none` where null is held. -/
def listOf : Value → Except Fault (Option (List EnumValue))
  | .null => .ok none
  | value => do
    let entries ← value.elements
    some <$> entries.mapM ofValue

/-- The list as a value, each entry as the record that describes it. -/
def listValue : Option (List EnumValue) → Value
  | none => .null
  | some es => .list (es.map fun e => .record e.toRecord)

end EnumValue

end TableSchema
