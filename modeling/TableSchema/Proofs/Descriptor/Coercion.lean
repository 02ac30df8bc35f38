import TableSchema.Column
import TableSchema.ForeignKey
import TableSchema.Proofs.Descriptor.ClauseComposition

/-!
Records as descriptions of columns, foreign keys and filters. What is read of a record is described
by a record of its own that is read as the same, and of a key with two spellings it does not matter
which one is used. Where both are, the first decides, whatever it holds.
-/

namespace TableSchema

namespace Record

structure Moves (key other : String) (r r' : Record) : Prop where
  absent : r.get? other = none
  gone : r'.get? key = none
  moved : r'.get? other = r.get? key
  rest : ∀ name, name ≠ key → name ≠ other → r'.get? name = r.get? name

def DiffersAt (key : String) (r r' : Record) : Prop :=
  ∀ name, name ≠ key → r'.get? name = r.get? name

def ReadsBy {α : Type} (keys : List (List String)) (read : Record → α) : Prop :=
  ∀ r r', (∀ spellings ∈ keys, r'.pick? spellings = r.pick? spellings) → read r' = read r

def HasSpellings (keys : List (List String)) (pairs : List (String × String)) : Prop :=
  ∀ pair ∈ pairs, ∀ spellings ∈ keys,
    spellings = [pair.1, pair.2] ∨ pair.1 ∉ spellings ∧ pair.2 ∉ spellings

instance (keys : List (List String)) (pairs : List (String × String)) :
    Decidable (HasSpellings keys pairs) :=
  inferInstanceAs (Decidable (∀ pair ∈ pairs, ∀ spellings ∈ keys, _))

/-- Reading takes records for descriptions, and `write` gives the one in the first spellings. The
description of what has been read is read as the same; a value may be moved to the other spelling of
its key; and where the first spelling is present the other one makes no difference, and the field
holds what `held` tells of the value. -/
structure Normalizes {α : Type} (read : Record → Except Fault α) (write : α → Record)
    (pairs : List (String × String)) (held : String → Value → Except Fault Value) : Prop where
  settled : ∀ r a, read r = .ok a → read (write a) = .ok a
  respelled : ∀ pair ∈ pairs, ∀ r r',
    Moves pair.1 pair.2 r r' ∨ Moves pair.2 pair.1 r r' → read r' = read r
  decided : ∀ pair ∈ pairs, ∀ r value, r.get? pair.1 = some value →
    (∀ r', DiffersAt pair.2 r r' → read r' = read r) ∧
    ∀ a, read r = .ok a → ∃ field, held pair.1 value = .ok field ∧
      (write a).get? pair.1 = some field

section Spelling

variable {α : Type} {keys : List (List String)} {pairs : List (String × String)}
  {read : Record → α} {pair : String × String} {r r' : Record}

theorem pick?_congr {spellings : List String} (h : ∀ name ∈ spellings, r'.get? name = r.get? name) :
    r'.pick? spellings = r.pick? spellings := by
  induction spellings with
  | nil => rfl
  | cons name spellings ih =>
    obtain ⟨first, others⟩ := List.forall_mem_cons.1 h
    rw [pick?_cons, pick?_cons, first, ih others]

theorem pick_eq_of_pick?_eq {spellings : List String} (h : r'.pick? spellings = r.pick? spellings) :
    r'.pick spellings = r.pick spellings := by
  rw [pick, pick, h]

theorem Moves.symm {key other : String} (h : Moves key other r r') : Moves other key r' r where
  absent := h.gone
  gone := h.absent
  moved := h.moved.symm
  rest := fun name hother hkey => (h.rest name hkey hother).symm

theorem ReadsBy.of_moves (h : ReadsBy keys read) (spelled : HasSpellings keys pairs)
    (mem : pair ∈ pairs) (moves : Moves pair.1 pair.2 r r') : read r' = read r := by
  refine h r r' fun spellings listed => ?_
  rcases spelled pair mem spellings listed with rfl | ⟨first, second⟩
  · simp only [pick?_cons, pick?_nil, moves.absent, moves.gone, moves.moved, Option.or_none,
      Option.none_or]
  · refine pick?_congr fun name hn => moves.rest name ?_ ?_
    · rintro rfl
      exact first hn
    · rintro rfl
      exact second hn

theorem ReadsBy.of_decided (h : ReadsBy keys read) (spelled : HasSpellings keys pairs)
    (mem : pair ∈ pairs) {value : Value} (present : r.get? pair.1 = some value)
    (apart : pair.1 ≠ pair.2) (differs : DiffersAt pair.2 r r') : read r' = read r := by
  refine h r r' fun spellings listed => ?_
  rcases spelled pair mem spellings listed with rfl | ⟨-, second⟩
  · rw [pick?_cons_of_get? present, pick?_cons_of_get? ((differs pair.1 apart).trans present)]
  · refine pick?_congr fun name hn => differs name ?_
    rintro rfl
    exact second hn

/-- A reader of spelled keys normalizes if it settles and holds what stands in the first spelling. -/
theorem Normalizes.of_readsBy {read : Record → Except Fault α} {write : α → Record}
    {held : String → Value → Except Fault Value} (reads : ReadsBy keys read)
    (spelled : HasSpellings keys pairs) (apart : ∀ pair ∈ pairs, pair.1 ≠ pair.2)
    (settled : ∀ r a, read r = .ok a → read (write a) = .ok a)
    (holds : ∀ pair ∈ pairs, ∀ r value, r.get? pair.1 = some value → ∀ a, read r = .ok a →
      ∃ field, held pair.1 value = .ok field ∧ (write a).get? pair.1 = some field) :
    Normalizes read write pairs held where
  settled
  respelled := by
    rintro pair mem r r' (forth | back)
    · exact reads.of_moves spelled mem forth
    · exact (reads.of_moves spelled mem back.symm).symm
  decided := fun pair mem r value present =>
    ⟨fun _ differs => reads.of_decided spelled mem present (apart pair mem) differs,
      holds pair mem r value present⟩

end Spelling

end Record

namespace EnumValue

variable {given item : Value} {e : EnumValue} {es : Option (List EnumValue)}

inductive Describes : Value → EnumValue → Prop
  | mapping {r : Record} {value : Value} (present : r.get? "value" = some value) :
      Describes (.record r) ⟨value, r.pick ["label"]⟩
  | built {fields : Record} (known : fields.checkPart .enumValue = .ok ()) :
      Describes (.part .enumValue fields) ⟨fields.pick ["value"], fields.pick ["label"]⟩

inductive Lists : Value → Option (List EnumValue) → Prop
  | null : Lists .null none
  | elements {given : Value} {items : List Value} {es : List EnumValue}
      (consists : given.elements = .ok items) (entries : List.Forall₂ Describes items es) :
      Lists given (some es)

theorem ofRecord_eq_ok_iff {r : Record} :
    ofRecord r = .ok e ↔ ∃ value, r.get? "value" = some value ∧ e = ⟨value, r.pick ["label"]⟩ := by
  unfold ofRecord Record.require
  cases r.get? "value" with
  | none => simp [bind, Except.bind]
  | some value => simp [bind, Except.bind, pure, Except.pure, eq_comm]

theorem ofValue_eq_ok_iff : ofValue item = .ok e ↔ Describes item e := by
  constructor
  · intro read
    cases item with
    | record r =>
      obtain ⟨value, present, rfl⟩ := ofRecord_eq_ok_iff.1 read
      exact .mapping present
    | part part fields =>
      cases part with
      | enumValue =>
        cases known : Record.checkPart fields .enumValue with
        | error fault => simp [ofValue, ofFields, known, bind, Except.bind] at read
        | ok _ =>
          obtain rfl : ⟨Record.pick fields ["value"], Record.pick fields ["label"]⟩ = e := by
            simpa [ofValue, ofFields, known, bind, Except.bind, pure, Except.pure] using read
          exact .built known
      | _ => exact absurd read (by simp [ofValue, Value.refuse])
    | _ => exact absurd read (by simp [ofValue, Value.refuse])
  · intro described
    cases described with
    | mapping present => exact ofRecord_eq_ok_iff.2 ⟨_, present, rfl⟩
    | built known =>
      rw [ofValue, ofFields, known]
      rfl

theorem mapM_ofValue_eq_ok_iff {items : List Value} {es : List EnumValue} :
    items.mapM ofValue = .ok es ↔ List.Forall₂ Describes items es := by
  rw [mapM_eq_ok_iff, ← List.forall₂_eq_eq_eq, List.forall₂_map_left_iff,
    List.forall₂_map_right_iff]
  simp only [ofValue_eq_ok_iff]

theorem listOf_of_ne_null (h : given ≠ .null) :
    listOf given = (do
      let entries ← given.elements
      some <$> entries.mapM ofValue) := by
  cases given <;> first | rfl | exact absurd rfl h

theorem listOf_eq_ok_iff : listOf given = .ok es ↔ Lists given es := by
  constructor
  · intro read
    by_cases null : given = .null
    · subst null
      obtain rfl := Except.ok.inj read
      exact .null
    · rw [listOf_of_ne_null null] at read
      cases consists : given.elements with
      | error fault => simp [consists, bind, Except.bind] at read
      | ok items =>
        cases entries : items.mapM ofValue with
        | error fault => simp [consists, entries, bind, Except.bind] at read
        | ok es' =>
          obtain rfl : some es' = es := by simpa [consists, entries, bind, Except.bind] using read
          exact .elements consists (mapM_ofValue_eq_ok_iff.1 entries)
  · intro lists
    cases lists with
    | null => rfl
    | elements consists entries =>
      have given_ne : given ≠ .null := by
        rintro rfl
        simp [Value.elements, Value.refuse] at consists
      rw [listOf_of_ne_null given_ne, consists]
      simp [bind, Except.bind, mapM_ofValue_eq_ok_iff.2 entries]

theorem listOf_listValue (es : Option (List EnumValue)) : listOf (listValue es) = .ok es := by
  cases es with
  | none => rfl
  | some es =>
    refine listOf_eq_ok_iff.2 (.elements rfl ?_)
    rw [List.forall₂_map_left_iff]
    exact List.forall₂_same.2 fun e _ => ofValue_eq_ok_iff.1 (ofRecord_toRecord e)

end EnumValue

namespace Column

variable {r : Record} {c : Column}

def spellings : List (String × String) :=
  [("sql_type", "sqlType"), ("primary_key", "primaryKey"), ("auto_increment", "autoIncrement"),
   ("foreign_key", "foreignKey"), ("default_value", "defaultValue"),
   ("enum_values", "enumValues")]

def keys : List (List String) :=
  [["name"], ["nullable"]] ++ spellings.map fun pair => [pair.1, pair.2]

/-- What the field holds of a value: flags are reduced to truth values, and enum values are read one
by one. -/
def held (field : String) (given : Value) : Except Fault Value :=
  if field ∈ ["primary_key", "nullable", "auto_increment", "foreign_key"] then
    .ok (.bool given.isTrue)
  else if field = "enum_values" then EnumValue.listValue <$> EnumValue.listOf given
  else .ok given

theorem ofRecord_eq_ok_iff :
    ofRecord r = .ok c ↔ ∃ name enumValues, r.get? "name" = some name ∧
      EnumValue.listOf (r.pick ["enum_values", "enumValues"]) = .ok enumValues ∧
      c = {
        name
        sqlType := r.pick ["sql_type", "sqlType"]
        primaryKey := r.flag ["primary_key", "primaryKey"]
        nullable := r.flag ["nullable"]
        autoIncrement := r.flag ["auto_increment", "autoIncrement"]
        foreignKey := r.flag ["foreign_key", "foreignKey"]
        defaultValue := r.pick ["default_value", "defaultValue"]
        enumValues } := by
  unfold ofRecord Record.require
  cases r.get? "name" with
  | none => simp [bind, Except.bind]
  | some name =>
    cases EnumValue.listOf (r.pick ["enum_values", "enumValues"]) with
    | error fault => simp [bind, Except.bind]
    | ok enumValues => simp [bind, Except.bind, pure, Except.pure, eq_comm]

theorem readsBy_keys : Record.ReadsBy keys ofRecord := by
  intro r r' same
  have picked (spellings : List String) (listed : spellings ∈ keys) :
      r'.pick spellings = r.pick spellings :=
    Record.pick_eq_of_pick?_eq (same spellings listed)
  have name : r'.get? "name" = r.get? "name" := by
    simpa [Record.pick?_cons] using same ["name"] (by decide)
  unfold ofRecord Record.require Record.flag
  rw [name, picked ["enum_values", "enumValues"] (by decide),
    picked ["sql_type", "sqlType"] (by decide), picked ["primary_key", "primaryKey"] (by decide),
    picked ["nullable"] (by decide), picked ["auto_increment", "autoIncrement"] (by decide),
    picked ["foreign_key", "foreignKey"] (by decide),
    picked ["default_value", "defaultValue"] (by decide)]

theorem ofRecord_toRecord_of_ok (h : ofRecord r = .ok c) : ofRecord c.toRecord = .ok c := by
  obtain ⟨name, enumValues, -, -, rfl⟩ := ofRecord_eq_ok_iff.1 h
  refine ofRecord_eq_ok_iff.2 ⟨name, enumValues, by simp [toRecord, fields, Record.get?_cons], ?_, ?_⟩
  · simpa [toRecord, fields, Record.get?_cons, Record.pick, Record.pick?_cons] using
      EnumValue.listOf_listValue enumValues
  · simp [toRecord, fields, Record.get?_cons, Record.pick, Record.pick?_cons, Record.flag]

theorem held_of_ok {pair : String × String} (mem : pair ∈ spellings) {value : Value}
    (present : r.get? pair.1 = some value) (h : ofRecord r = .ok c) :
    ∃ field, held pair.1 value = .ok field ∧ c.toRecord.get? pair.1 = some field := by
  obtain ⟨name, enumValues, -, listed, rfl⟩ := ofRecord_eq_ok_iff.1 h
  simp only [spellings, List.mem_cons, List.not_mem_nil, or_false] at mem
  rcases mem with rfl | rfl | rfl | rfl | rfl | rfl
  case inr.inr.inr.inr.inr =>
    refine ⟨EnumValue.listValue enumValues, ?_, by simp [toRecord, fields, Record.get?_cons]⟩
    rw [Record.pick, Record.pick?_cons_of_get? present, Option.getD_some] at listed
    simp [held, listed]
  all_goals
    simp [held, toRecord, fields, Record.get?_cons, Record.flag, Record.pick,
      Record.pick?_cons_of_get? present]

theorem normalizes : Record.Normalizes ofRecord toRecord spellings held :=
  .of_readsBy readsBy_keys (by decide) (by decide) (fun _ _ => ofRecord_toRecord_of_ok)
    fun _ mem _ _ present _ => held_of_ok mem present

theorem exists_ofRecord_iff (r : Record) (es : Option (List EnumValue)) :
    (∃ c, ofRecord r = .ok c ∧ c.enumValues = es) ↔
      (r.get? "name").isSome ∧ EnumValue.Lists (r.pick ["enum_values", "enumValues"]) es := by
  rw [← EnumValue.listOf_eq_ok_iff, Option.isSome_iff_exists]
  constructor
  · rintro ⟨c, read, rfl⟩
    obtain ⟨name, enumValues, named, listed, rfl⟩ := ofRecord_eq_ok_iff.1 read
    exact ⟨⟨name, named⟩, listed⟩
  · rintro ⟨⟨name, named⟩, listed⟩
    exact ⟨_, ofRecord_eq_ok_iff.2 ⟨name, es, named, listed, rfl⟩, rfl⟩

theorem exists_ofFields_iff (r : Record) (es : Option (List EnumValue)) :
    (∃ c, ofFields r = .ok c ∧ c.enumValues = es) ↔
      r.checkPart .column = .ok () ∧ EnumValue.Lists (r.pick ["enum_values"]) es := by
  rw [← EnumValue.listOf_eq_ok_iff]
  unfold ofFields
  cases known : Record.checkPart r .column with
  | error fault => simp [bind, Except.bind]
  | ok _ =>
    cases listed : EnumValue.listOf (r.pick ["enum_values"]) with
    | error fault => simp [bind, Except.bind]
    | ok _ => simp [bind, Except.bind, pure, Except.pure]

end Column

namespace ForeignKey

def spellings : List (String × String) :=
  [("local_column", "localColumn"), ("referenced_table", "referencedTable"),
   ("referenced_column", "referencedColumn"), ("on_delete", "onDelete"),
   ("on_update", "onUpdate")]

theorem readsBy_spellings :
    Record.ReadsBy (spellings.map fun pair => [pair.1, pair.2]) ofRecord := by
  intro r r' same
  have picked (key : List String) (listed : key ∈ spellings.map fun pair => [pair.1, pair.2]) :
      r'.pick key = r.pick key :=
    Record.pick_eq_of_pick?_eq (same key listed)
  simp only [ofRecord, picked ["local_column", "localColumn"] (by decide),
    picked ["referenced_table", "referencedTable"] (by decide),
    picked ["referenced_column", "referencedColumn"] (by decide),
    picked ["on_delete", "onDelete"] (by decide), picked ["on_update", "onUpdate"] (by decide)]

theorem get?_toRecord_ofRecord {r : Record} {pair : String × String} (mem : pair ∈ spellings)
    {value : Value} (present : r.get? pair.1 = some value) :
    (ofRecord r).toRecord.get? pair.1 = some value := by
  simp only [spellings, List.mem_cons, List.not_mem_nil, or_false] at mem
  rcases mem with rfl | rfl | rfl | rfl | rfl <;>
    simp [ofRecord, toRecord, Record.get?_cons, Record.pick, Record.pick?_cons_of_get? present]

theorem normalizes :
    Record.Normalizes (fun r => .ok (ofRecord r)) toRecord spellings fun _ => .ok := by
  refine .of_readsBy (fun r r' same => congrArg Except.ok (readsBy_spellings r r' same))
    (by decide) (by decide) (fun _ fk _ => congrArg Except.ok (ofRecord_toRecord fk)) ?_
  intro pair mem r value present fk read
  obtain rfl : ofRecord r = fk := Except.ok.inj read
  exact ⟨value, rfl, get?_toRecord_ofRecord mem present⟩

end ForeignKey

/-- Descriptions have a normal form: one spelling for every key, and a record for every enum value.
A column that is described or built holds the enum values that were listed for it, and only what
lists them is accepted. -/
theorem Record.coercion_normalizes :
    Normalizes Column.ofRecord Column.toRecord Column.spellings Column.held ∧
    Normalizes (fun r => .ok (ForeignKey.ofRecord r)) ForeignKey.toRecord ForeignKey.spellings
      (fun _ => .ok) ∧
    (∀ r f, Filter.ofRecord r = .ok f → Filter.ofRecord f.toRecord = .ok f) ∧
    (∀ r es, (∃ c, Column.ofRecord r = .ok c ∧ c.enumValues = es) ↔
      (r.get? "name").isSome ∧ EnumValue.Lists (r.pick ["enum_values", "enumValues"]) es) ∧
    ∀ r es, (∃ c, Column.ofFields r = .ok c ∧ c.enumValues = es) ↔
      r.checkPart .column = .ok () ∧ EnumValue.Lists (r.pick ["enum_values"]) es := by
  refine ⟨Column.normalizes, ForeignKey.normalizes, ?_, Column.exists_ofRecord_iff,
    Column.exists_ofFields_iff⟩
  intro r f read
  obtain ⟨rfl, column⟩ := (Filter.checked_eq_ok_iff _ _).1 read
  rw [Filter.ofRecord_toRecord, Filter.checked_eq_ok_iff]
  exact ⟨rfl, column⟩

example : Column.sqlType <$>
    Column.ofRecord [("name", .text "id"), ("sqlType", .text "TEXT"), ("sql_type", .null)] =
    .ok .null := rfl

end TableSchema
