import TableSchema.Fault

/-!
Descriptions as records. A record is read by key, and where a key has two spellings the first one
that is present decides, even if it holds null.
-/

namespace TableSchema

abbrev Record := List (String × Value)

namespace Record

def get? (r : Record) (key : String) : Option Value :=
  List.lookup key r

theorem get?_cons (entry : String × Value) (r : Record) (key : String) :
    get? (entry :: r) key = if key = entry.1 then some entry.2 else get? r key := by
  obtain ⟨name, value⟩ := entry
  by_cases h : key = name
  · simp [get?, h]
  · simp [get?, List.lookup_cons, h, beq_false_of_ne h]

/-- The value under the first of the spellings that is present. -/
def pick? (r : Record) (spellings : List String) : Option Value :=
  spellings.findSome? r.get?

/-- A missing value counts as null. -/
def pick (r : Record) (spellings : List String) : Value :=
  (r.pick? spellings).getD .null

/-- The truth value under the first of the spellings that is present. -/
def flag (r : Record) (spellings : List String) : Value :=
  .bool (r.pick spellings).isTrue

def require (r : Record) (key : String) : Except Fault Value :=
  match r.get? key with
  | some value => .ok value
  | none => .error (.missingKey key)

/-- Admits the fields that something of the given name is built from: all of them are known, and
none of those that are required is missing. -/
def checkFields (r : Record) (owner : String) (known required : List String) :
    Except Fault Unit :=
  let call := owner ++ ".__init__"
  match r.find? fun entry => !known.contains entry.1 with
  | some entry => .error (.unexpectedArgument call entry.1)
  | none =>
    match required.filter fun field => (r.get? field).isNone with
    | [] => .ok ()
    | missing => .error (.missingArguments call missing)

/-- Admits the fields of a part to be built. -/
def checkPart (r : Record) (part : Part) : Except Fault Unit :=
  r.checkFields part.name part.fieldNames part.requiredFields

@[simp] theorem pick?_nil (r : Record) : r.pick? [] = none := rfl

theorem pick?_cons (r : Record) (key : String) (spellings : List String) :
    r.pick? (key :: spellings) = (r.get? key).or (r.pick? spellings) := by
  simp only [pick?, List.findSome?_cons]
  cases r.get? key <;> rfl

/-- The first spelling decides where it is present. -/
theorem pick?_cons_of_get? {r : Record} {key : String} {value : Value}
    (h : r.get? key = some value) (spellings : List String) :
    r.pick? (key :: spellings) = some value := by
  simp [pick?_cons, h]

end Record

end TableSchema
