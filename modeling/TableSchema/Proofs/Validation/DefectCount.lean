import Mathlib.Algebra.BigOperators.Group.List.Basic
import Mathlib.Algebra.Ring.Nat
import TableSchema.Proofs.Validation.ValueClass

/-!
What is reported of each column and of each foreign key by itself, and how many issues of a code
that comes to in the whole.
-/

namespace TableSchema

namespace Column

structure IsComparable (c : Column) : Prop where
  named : c.name = .null ∨ ∃ s, c.name = .text s
  values : ∀ es, c.enumValues = some es → ∀ e ∈ es, e.value.IsComparable

def values (c : Column) : List Value :=
  (c.enumValues.getD []).map EnumValue.value

/-- How many values of the column there are beyond one of each class. -/
def repeatedValues (c : Column) : Nat :=
  c.values.length - Value.classes c.values

theorem IsComparable.of_mem_values {c : Column} (comparable : c.IsComparable) :
    ∀ value ∈ c.values, value.IsComparable := by
  intro value mem
  obtain ⟨e, he, rfl⟩ := List.mem_map.1 mem
  cases held : c.enumValues with
  | none =>
    rw [held] at he
    exact absurd he List.not_mem_nil
  | some es =>
    rw [held] at he
    exact comparable.values es held e he

end Column

namespace ForeignKey

instance (action : Value) : Decidable (IsAction action) :=
  inferInstanceAs (Decidable (_ ∨ _))

def unknownActions (fk : ForeignKey) : List Value :=
  [fk.onDelete, fk.onUpdate].filter fun action => ¬ IsAction action

end ForeignKey

theorem Value.same_null_iff (value : Value) : Value.null.same value = true ↔ value = .null := by
  cases value <;> simp [same, integer?]

theorem Value.same_name_iff {name : Value} (named : name = .null ∨ ∃ s, name = .text s)
    (value : Value) : name.same value = true ↔ name = value := by
  rcases named with rfl | ⟨s, rfl⟩
  · rw [same_null_iff]
    exact eq_comm
  · rw [same_text_iff]
    exact eq_comm

namespace Validation

variable {columns : List Column} {constraints : List ForeignKey} {c : Column} {fk : ForeignKey}

def tally (code : Code) (found : List Issue) : Nat :=
  (found.map Issue.code).count code

theorem tally_append (code : Code) (a b : List Issue) :
    tally code (a ++ b) = tally code a + tally code b := by
  rw [tally, List.map_append, List.count_append]
  rfl

section Columns

theorem codes_repeatedValueIssues (column : Value) (earlier : List Value) (es : List EnumValue) :
    (repeatedValueIssues column earlier es).map Issue.code =
      List.replicate (repeats Value.same earlier (es.map EnumValue.value)) .duplicateEnumValue := by
  induction es generalizing earlier with
  | nil => rfl
  | cons e es ih =>
    rw [repeatedValueIssues, List.map_append, ih, List.map_cons, repeats, List.replicate_add]
    congr 1
    split <;> rfl

theorem codes_enumIssues (comparable : c.IsComparable) :
    (enumIssues c).map Issue.code =
      (if c.enumValues = some [] then [.emptyEnum] else []) ++
        List.replicate c.repeatedValues .duplicateEnumValue := by
  have count := Value.repeats_same_eq comparable.of_mem_values
  unfold enumIssues
  split
  next none => simp [none, Column.repeatedValues, Column.values]
  next empty => simp [empty, Column.repeatedValues, Column.values, Issue.code]
  next es notEmpty some =>
    rw [codes_repeatedValueIssues, if_neg (by simpa [some] using notEmpty), List.nil_append,
      Column.repeatedValues, ← count, Column.values, some, Option.getD_some]

theorem column_enumIssues (c : Column) : ∀ issue ∈ enumIssues c, issue.column = c.name := by
  have repeated (earlier : List Value) (es : List EnumValue) :
      ∀ issue ∈ repeatedValueIssues c.name earlier es, issue.column = c.name := by
    induction es generalizing earlier with
    | nil => simp [repeatedValueIssues]
    | cons e es ih =>
      rw [repeatedValueIssues, List.forall_mem_append]
      refine ⟨?_, ih (e.value :: earlier)⟩
      split <;> simp [Issue.column]
  unfold enumIssues
  split
  · simp
  · simp [Issue.column]
  · exact repeated [] _

structure ReportsColumn (c : Column) (part : List Issue) : Prop where
  about : ∀ issue ∈ part, issue.column = c.name
  codes : ∃ repeated, repeated ≤ 1 ∧ part.map Issue.code =
    List.replicate repeated .duplicateColumn ++
      (if c.enumValues = some [] then [.emptyEnum] else []) ++
      List.replicate c.repeatedValues .duplicateEnumValue

theorem reportsColumn (comparable : c.IsComparable) (repeated : Bool) :
    ReportsColumn c ((if repeated then [.duplicateColumn c.name] else []) ++ enumIssues c) where
  about := by
    rw [List.forall_mem_append]
    refine ⟨?_, column_enumIssues c⟩
    cases repeated <;> simp [Issue.column]
  codes := by
    rw [List.map_append, codes_enumIssues comparable, ← List.append_assoc]
    cases repeated with
    | false => exact ⟨0, by decide, rfl⟩
    | true => exact ⟨1, by decide, rfl⟩

theorem exists_columnParts (comparable : ∀ c ∈ columns, c.IsComparable) (seen : List Value) :
    ∃ parts, columnIssues seen columns = parts.flatten ∧
      List.Forall₂ ReportsColumn columns parts := by
  induction columns generalizing seen with
  | nil => exact ⟨[], rfl, .nil⟩
  | cons c cs ih =>
    obtain ⟨first, others⟩ := List.forall_mem_cons.1 comparable
    obtain ⟨parts, split, reports⟩ := ih others (c.name :: seen)
    refine ⟨_ :: parts, ?_, .cons (reportsColumn first (seen.any c.name.same)) reports⟩
    rw [columnIssues, split, List.flatten_cons]

theorem tally_columnIssues (code : Code) (seen : List Value) (columns : List Column) :
    tally code (columnIssues seen columns) =
      (if code = .duplicateColumn then repeats Value.same seen (columns.map Column.name) else 0) +
        (columns.map fun c => tally code (enumIssues c)).sum := by
  induction columns generalizing seen with
  | nil => simp [columnIssues, tally, repeats]
  | cons c cs ih =>
    have own : tally code (if seen.any c.name.same then [.duplicateColumn c.name] else []) =
        if code = .duplicateColumn then (if seen.any c.name.same then 1 else 0) else 0 := by
      cases seen.any c.name.same <;> cases code <;> rfl
    rw [columnIssues, tally_append, tally_append, own, ih, List.map_cons, List.map_cons, repeats,
      List.sum_cons]
    split <;> omega

end Columns

section ForeignKeys

theorem actionIssues_eq (column action : Value) :
    actionIssues column action =
      if ForeignKey.IsAction action then [] else [.unsupportedAction action column] := by
  have known : (action.isNull || action.text?.any ForeignKey.knownActions.contains) = true ↔
      ForeignKey.IsAction action := by
    rw [Bool.or_eq_true, Value.isNull_iff, Option.any_eq_true]
    refine or_congr_right ⟨?_, ?_⟩
    · rintro ⟨s, text, mem⟩
      exact ⟨s, List.contains_iff_mem.1 mem, (Value.text?_eq_some_iff action s).1 text⟩
    · rintro ⟨s, mem, text⟩
      exact ⟨s, (Value.text?_eq_some_iff action s).2 text, List.contains_iff_mem.2 mem⟩
  unfold actionIssues
  by_cases h : ForeignKey.IsAction action
  · rw [if_pos (known.2 h), if_pos h]
  · rw [if_neg (mt known.1 h), if_neg h]

structure ReportsForeignKey (columns : List Column) (fk : ForeignKey) (part : List Issue) :
    Prop where
  about : ∀ issue ∈ part, issue.column = fk.localColumn
  codes : part.map Issue.code =
    (if fk.localColumn ∈ columns.map Column.name then [] else [.unknownForeignKeyColumn]) ++
      List.replicate fk.unknownActions.length .invalidForeignKeyAction

theorem declares_iff (comparable : ∀ c ∈ columns, c.IsComparable) (value : Value) :
    (columns.any fun c => c.name.same value) = true ↔ value ∈ columns.map Column.name := by
  rw [List.any_eq_true, List.mem_map]
  refine exists_congr fun c => and_congr_right fun hc => ?_
  exact Value.same_name_iff (comparable c hc).named value

theorem reportsForeignKey (comparable : ∀ c ∈ columns, c.IsComparable) (fk : ForeignKey) :
    ReportsForeignKey columns fk (foreignKeyIssues columns fk) where
  about := by
    unfold foreignKeyIssues
    rw [actionIssues_eq, actionIssues_eq, List.forall_mem_append, List.forall_mem_append]
    refine ⟨⟨?_, ?_⟩, ?_⟩ <;> split <;> simp [Issue.column]
  codes := by
    have declared := declares_iff comparable fk.localColumn
    unfold foreignKeyIssues
    rw [actionIssues_eq, actionIssues_eq, List.append_assoc, List.map_append]
    congr 1
    · by_cases h : fk.localColumn ∈ columns.map Column.name
      · rw [if_pos (declared.2 h), if_pos h]
        rfl
      · rw [if_neg (mt declared.1 h), if_neg h]
        rfl
    · unfold ForeignKey.unknownActions
      by_cases delete : ForeignKey.IsAction fk.onDelete <;>
        by_cases update : ForeignKey.IsAction fk.onUpdate <;>
          simp [delete, update, Issue.code, List.replicate]

theorem tally_flatMap {α : Type} (code : Code) (f : α → List Issue) (xs : List α) :
    tally code (xs.flatMap f) = (xs.map fun x => tally code (f x)).sum := by
  induction xs with
  | nil => rfl
  | cons x xs ih => rw [List.flatMap_cons, tally_append, ih, List.map_cons, List.sum_cons]

end ForeignKeys

end Validation

end TableSchema
