import TableSchema.Validation

/-!
Descriptors: one table with its alias, its columns and its foreign keys. A descriptor is built from
a draft, takes further columns and foreign keys until it is frozen, and keeps the settings that it
was built with. Freezing makes a copy that can only be read.
-/

namespace TableSchema

structure Descriptor where
  tableName : Value
  aliasName : String
  columns : List Column := []
  constraints : List ForeignKey := []
  settings : Settings
  frozen : Bool := false

/-- What a descriptor is built from. -/
structure Draft where
  tableName : Value
  aliasName : Value := .null
  columns : Value := .null
  constraints : Value := .null

/-- The outline of a descriptor, as it is shown. -/
structure Summary where
  text : String
  frozen : Bool
  columns : List Value
  constraints : List Value
  deriving DecidableEq

/-- What a descriptor can be extended by. -/
inductive Member
  | column
  | constraint
  deriving DecidableEq

namespace Member

@[reducible]
def Item : Member → Type
  | column => Column
  | constraint => ForeignKey

def read : (m : Member) → Value → Except Fault m.Item
  | column => Column.ofValue
  | constraint => ForeignKey.ofValue

end Member

namespace Descriptor

def lowerName (name : Value) : Except Fault String :=
  Text.lower <$> name.requireText .lowerCase

/-- The alias of a table is in lower case; without one, or with an empty one, the table's own name
takes its place. -/
def aliasFor (tableName aliasName : Value) : Except Fault String :=
  lowerName (aliasName.orElse tableName)

/-- The parts that a value consists of, each read in turn. -/
def readAll {α : Type} (read : Value → Except Fault α) (given : Value) :
    Except Fault (List α) := do
  let entries ← given.elements
  entries.mapM read

/-- What does not count as true in a draft holds no columns and no foreign keys. -/
def ofDraft (settings : Settings) (draft : Draft) : Except Fault Descriptor := do
  let aliasName ← aliasFor draft.tableName draft.aliasName
  let columns ← readAll Column.ofValue (draft.columns.orElse (.list []))
  let constraints ← readAll ForeignKey.ofValue (draft.constraints.orElse (.list []))
  return { tableName := draft.tableName, aliasName, columns, constraints, settings }

def summary (d : Descriptor) : Summary where
  text := "SchemaDescriptor(" ++ d.tableName.shown ++ ", alias=" ++ Text.quoted d.aliasName ++
    ", columns=" ++ d.columns.length.repr ++ ", constraints=" ++ d.constraints.length.repr ++
    ", frozen=" ++ (Value.bool d.frozen).shown ++ ")"
  frozen := d.frozen
  columns := d.columns.map Column.name
  constraints := d.constraints.map ForeignKey.localColumn

def append (d : Descriptor) : (m : Member) → List m.Item → Descriptor
  | .column, added => { d with columns := d.columns ++ added }
  | .constraint, added => { d with constraints := d.constraints ++ added }

/-- Reads parts in order up to the first that cannot be read; those before it are kept. -/
def readUpToFault {α β : Type} (read : α → Except Fault β) : List α → List β × Except Fault Unit
  | [] => ([], .ok ())
  | part :: rest =>
    match read part with
    | .error fault => ([], .error fault)
    | .ok b => (b :: (readUpToFault read rest).1, (readUpToFault read rest).2)

/-- Adds parts up to the first that cannot be read. A frozen descriptor takes none. -/
def add (d : Descriptor) (m : Member) (parts : List Value) : Descriptor × Except Fault Unit :=
  if d.frozen then (d, .error (.frozen d.tableName))
  else
    let (added, outcome) := readUpToFault m.read parts
    (d.append m added, outcome)

def validate (d : Descriptor) : Observed (List Issue) :=
  Validation.validate d.settings d.columns d.constraints

/-- The frozen copy. Errors found by validation forbid it where validation is strict. -/
def freeze (d : Descriptor) : Observed Descriptor := do
  let issues ← d.validate
  if d.settings.strictValidation && issues.any Issue.isError then
    Observed.lift (.error (.invalid d.tableName issues))
  else
    let aliasName ← Observed.lift (aliasFor d.tableName (.text d.aliasName))
    return { d with aliasName, frozen := true }

end Descriptor

end TableSchema
