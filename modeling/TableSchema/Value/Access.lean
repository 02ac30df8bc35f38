import TableSchema.Binary64.Reader
import TableSchema.Record
import TableSchema.Text.Occurrence

/-!
Values put to use. Not every kind of value allows every use; one that does not ends in a fault that
tells the kind and the use.
-/

namespace TableSchema.Value

def refuse {α : Type} (value : Value) (use : Use) : Except Fault α :=
  .error (.unfit value.kind use)

/-- The text that a value is, where it is needed for the given use. -/
def requireText (value : Value) (use : Use) : Except Fault String :=
  match value with
  | text s => .ok s
  | other => other.refuse use

/-- What a value consists of: its items, its keys or its characters. -/
def elements : Value → Except Fault (List Value)
  | list items | row items => .ok items
  | record entries => .ok (entries.map fun entry => text entry.1)
  | text s => .ok (s.toList.map fun c => text (String.singleton c))
  | other => other.refuse .elements

mutual

/-- The kind of the first list or record in a value, itself included. Those may change, and whatever
holds one cannot be looked up. -/
def changeable? : Value → Option Kind
  | list _ => some .list
  | record _ => some .record
  | row items => changeableItem? items
  | part _ fields => changeableField? fields
  | _ => none

def changeableItem? : List Value → Option Kind
  | [] => none
  | value :: values => (changeable? value).or (changeableItem? values)

def changeableField? : List (String × Value) → Option Kind
  | [] => none
  | (_, value) :: fields => (changeable? value).or (changeableField? fields)

end

/-- Admits a value that is to be looked up. -/
def checkLookup (value : Value) : Except Fault Unit :=
  match value.changeable? with
  | some kind => .error (.unfit kind .lookup)
  | none => .ok ()

/-- Admits the question whether the first value contains the second. -/
def checkMembership : Value → Value → Except Fault Unit
  | record _, key => key.checkLookup
  | list _, _ | row _, _ => .ok ()
  | text _, passage => (fun _ => ()) <$> passage.requireText .occurrence
  | other, _ => other.refuse .membership

/-- The second value is a key, an item or a passage of the first. -/
def contains : Value → Value → Bool
  | record entries, text key => (Record.get? entries key).isSome
  | list items, value | row items, value => items.any value.same
  | text s, text t => Text.occurs t.toList s.toList
  | _, _ => false

/-- The double that a value is read as. -/
def toDouble : Value → Except Fault Binary64
  | text s =>
    match Binary64.read? s with
    | some x => .ok x
    | none => .error (.notANumber s)
  | bool b => .ok (Binary64.ofDecimal false b.toNat 0)
  | int n =>
    match Binary64.ofDecimal (n < 0) n.natAbs 0 with
    | .infinite _ => .error .tooLarge
    | x => .ok x
  | float x => .ok x
  | other => other.refuse .number

@[simp] theorem contains_record_text (entries : List (String × Value)) (key : String) :
    (record entries).contains (text key) = (Record.get? entries key).isSome := rfl

example : (text "a_b").contains (text "_") = true := by decide

end TableSchema.Value
