import Mathlib.Data.List.Forall2
import Mathlib.Data.List.Nodup
import TableSchema.Proofs.Descriptor.Generation

/-!
The names of result columns. Columns that are told apart by their names are told apart in a result
as well, as long as no label takes the name of another column.
-/

namespace TableSchema.Descriptor

variable {d : Descriptor} {c c' : Column} {withPrimary useLabels : Bool}

/-- The names of the columns of a result, in quotes. -/
def outputNames (d : Descriptor) (withPrimary useLabels : Bool) : List String :=
  (d.selected withPrimary).map (d.outputName · useLabels)

def IsLabelled (useLabels : Bool) (c : Column) : Prop :=
  useLabels = true ∧ c.enumValues.isSome = true

instance (useLabels : Bool) (c : Column) : Decidable (IsLabelled useLabels c) :=
  inferInstanceAs (Decidable (_ ∧ _))

/-- Among the selected columns, one that is shown by its labels and one that is not and has the name
that those labels go by. -/
def HasLabelTwin (d : Descriptor) (withPrimary useLabels : Bool) : Prop :=
  ∃ c ∈ d.selected withPrimary, ∃ c' ∈ d.selected withPrimary,
    IsLabelled useLabels c ∧ ¬ IsLabelled useLabels c' ∧
      c'.name.display = c.name.display ++ "_label"

instance (d : Descriptor) (withPrimary useLabels : Bool) :
    Decidable (d.HasLabelTwin withPrimary useLabels) :=
  inferInstanceAs
    (Decidable (∃ c ∈ d.selected withPrimary, ∃ c' ∈ d.selected withPrimary, _ ∧ _ ∧ _))

theorem outputName_of_labelled (h : IsLabelled useLabels c) :
    d.outputName c useLabels = "\"" ++ d.prefixed (c.name.display ++ "_label") ++ "\"" := by
  unfold outputName prefixed
  simp only [h.1, h.2, Bool.and_self, if_true, String.append_assoc]

theorem outputName_of_not_labelled (h : ¬ IsLabelled useLabels c) :
    d.outputName c useLabels = "\"" ++ d.prefixed c.name.display ++ "\"" := by
  have bare : (useLabels && c.enumValues.isSome) = false := by
    rw [IsLabelled, ← Bool.and_eq_true] at h
    exact Bool.eq_false_iff.2 h
  unfold outputName
  rw [bare]
  dsimp only
  rw [if_neg (by decide), String.append_empty]

theorem quoted_prefixed_inj {m n : String} :
    "\"" ++ d.prefixed m ++ "\"" = "\"" ++ d.prefixed n ++ "\"" ↔ m = n := by
  rw [String.append_left_inj, String.append_right_inj, prefixed, prefixed,
    String.append_right_inj]

theorem outputName_eq_of_twin (labelled : IsLabelled useLabels c)
    (bare : ¬ IsLabelled useLabels c') (twin : c'.name.display = c.name.display ++ "_label") :
    d.outputName c useLabels = d.outputName c' useLabels := by
  rw [outputName_of_labelled labelled, outputName_of_not_labelled bare, twin]

theorem display_eq_or_twin (same : d.outputName c useLabels = d.outputName c' useLabels) :
    c.name.display = c'.name.display ∨
      (IsLabelled useLabels c ∧ ¬ IsLabelled useLabels c' ∧
        c'.name.display = c.name.display ++ "_label") ∨
      (IsLabelled useLabels c' ∧ ¬ IsLabelled useLabels c ∧
        c.name.display = c'.name.display ++ "_label") := by
  by_cases labelled : IsLabelled useLabels c <;> by_cases labelled' : IsLabelled useLabels c'
  · rw [outputName_of_labelled labelled, outputName_of_labelled labelled', quoted_prefixed_inj,
      String.append_left_inj] at same
    exact .inl same
  · rw [outputName_of_labelled labelled, outputName_of_not_labelled labelled',
      quoted_prefixed_inj] at same
    exact .inr (.inl ⟨labelled, labelled', same.symm⟩)
  · rw [outputName_of_not_labelled labelled, outputName_of_labelled labelled',
      quoted_prefixed_inj] at same
    exact .inr (.inr ⟨labelled', labelled, same⟩)
  · rw [outputName_of_not_labelled labelled, outputName_of_not_labelled labelled',
      quoted_prefixed_inj] at same
    exact .inl same

section Distinct

variable (named : ∀ c ∈ d.columns, ∃ s, c.name = .text s)
  (distinct : (d.columns.map Column.name).Nodup)

include named distinct

theorem eq_of_display_eq (hc : c ∈ d.columns) (hc' : c' ∈ d.columns)
    (same : c.name.display = c'.name.display) : c = c' := by
  obtain ⟨s, text⟩ := named c hc
  obtain ⟨t, text'⟩ := named c' hc'
  rw [text, text', Value.display_text, Value.display_text] at same
  refine List.inj_on_of_nodup_map distinct hc hc' ?_
  rw [text, text', same]

theorem nodup_outputNames_iff (withPrimary useLabels : Bool) :
    (d.outputNames withPrimary useLabels).Nodup ↔ ¬ d.HasLabelTwin withPrimary useLabels := by
  constructor
  · rintro apart ⟨c, hc, c', hc', labelled, bare, twin⟩
    have equal : c = c' :=
      List.inj_on_of_nodup_map apart hc hc' (outputName_eq_of_twin labelled bare twin)
    exact bare (equal ▸ labelled)
  · intro untwinned
    have columns : (d.selected withPrimary).Nodup :=
      (List.Nodup.of_map Column.name distinct).filter _
    refine List.Nodup.map_on (fun c hc c' hc' same => ?_) columns
    rcases display_eq_or_twin same with equal | ⟨labelled, bare, twin⟩ | ⟨labelled, bare, twin⟩
    · exact eq_of_display_eq named distinct (List.mem_filter.1 hc).1 (List.mem_filter.1 hc').1 equal
    · exact absurd ⟨c, hc, c', hc', labelled, bare, twin⟩ untwinned
    · exact absurd ⟨c', hc', c, hc, labelled, bare, twin⟩ untwinned

end Distinct

theorem sqlSelect_eq_ok {filters : Value} {sql : String}
    (h : (d.sqlSelect useLabels filters).outcome = .ok sql) :
    ∃ table clause, d.sqlName = .ok table ∧ d.whereClause filters = .ok clause ∧
      sql = d.selectText useLabels table clause := by
  cases table : d.sqlName with
  | error fault =>
    rw [sqlSelect, table] at h
    exact absurd h (by simp [Observed.bind_eq, Observed.bind])
  | ok name =>
    cases clause : d.whereClause filters with
    | error fault =>
      rw [sqlSelect, table, clause] at h
      exact absurd h (by simp [Observed.bind_eq, Observed.bind])
    | ok text =>
      rw [sqlSelect_eq table clause] at h
      exact ⟨name, text, rfl, rfl, (Except.ok.inj h).symm⟩

structure NamesResults (d : Descriptor) (withPrimary useLabels : Bool) : Prop where
  fields : List.Forall₂ (fun field name => ∃ source, field = source ++ " AS " ++ name)
    (d.columnFields withPrimary useLabels) (d.outputNames withPrimary useLabels)
  /-- A `SELECT` shows exactly these fields, primary keys among them. -/
  statement : withPrimary = true → ∀ filters sql,
    (d.sqlSelect useLabels filters).outcome = .ok sql →
      ∃ rest, sql = "SELECT " ++ ", ".intercalate (d.columnFields withPrimary useLabels) ++ rest
  distinct : (d.outputNames withPrimary useLabels).Nodup ↔ ¬ d.HasLabelTwin withPrimary useLabels

/-- No two result columns of a table are called the same, unless the labels of one of its columns
take the name of another. -/
theorem namesResults (d : Descriptor) (named : ∀ c ∈ d.columns, ∃ s, c.name = .text s)
    (distinct : (d.columns.map Column.name).Nodup) (withPrimary useLabels : Bool) :
    d.NamesResults withPrimary useLabels where
  fields := by
    rw [columnFields, outputNames, List.forall₂_map_left_iff, List.forall₂_map_right_iff]
    exact List.forall₂_same.2 fun c _ => ⟨_, rfl⟩
  statement := by
    rintro rfl filters sql answer
    obtain ⟨table, clause, -, -, rfl⟩ := sqlSelect_eq_ok answer
    refine ⟨" FROM " ++ table ++ " AS " ++ d.aliasName ++ clause, ?_⟩
    simp only [selectText, String.append_assoc]
  distinct := nodup_outputNames_iff named distinct withPrimary useLabels

def statusTable : Descriptor where
  tableName := .text "Orders"
  aliasName := "o"
  columns :=
    [{ name := .text "status_label", primaryKey := .bool true },
     { name := .text "status"
       enumValues := some [⟨.int 0, .text "open"⟩, ⟨.int 1, .text "paid"⟩] }]
  settings := {}

theorem statusTable_named : ∀ c ∈ statusTable.columns, ∃ s, c.name = .text s := by
  intro c hc
  simp only [statusTable, List.mem_cons, List.not_mem_nil, or_false] at hc
  rcases hc with rfl | rfl
  · exact ⟨"status_label", rfl⟩
  · exact ⟨"status", rfl⟩

theorem namesResults_of_statusTable :
    (statusTable.columns.map Column.name).Nodup ∧
      (statusTable.outputNames false true).Nodup ∧ (statusTable.outputNames true false).Nodup ∧
      ¬ (statusTable.outputNames true true).Nodup := by
  have distinct : (statusTable.columns.map Column.name).Nodup := by decide
  refine ⟨distinct, ?_, ?_, ?_⟩
  · exact (namesResults statusTable statusTable_named distinct false true).distinct.2 (by decide)
  · exact (namesResults statusTable statusTable_named distinct true false).distinct.2 (by decide)
  · intro apart
    have untwinned :=
      (namesResults statusTable statusTable_named distinct true true).distinct.1 apart
    exact absurd untwinned (by decide)

/-- That columns are told apart by their names is not enough for their labels to be. -/
theorem not_forall_nodup_outputNames :
    ¬ ∀ (d : Descriptor) (withPrimary useLabels : Bool),
      (∀ c ∈ d.columns, ∃ s, c.name = .text s) → (d.columns.map Column.name).Nodup →
        (d.outputNames withPrimary useLabels).Nodup := by
  intro apart
  have distinct : (statusTable.columns.map Column.name).Nodup := by decide
  have names := apart statusTable true true statusTable_named distinct
  rw [nodup_outputNames_iff statusTable_named distinct] at names
  exact absurd names (by decide)

end TableSchema.Descriptor
