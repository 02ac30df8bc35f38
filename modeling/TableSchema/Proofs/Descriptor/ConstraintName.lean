import Mathlib.Data.List.Nodup
import TableSchema.Proofs.Text.Lowering
import TableSchema.Proofs.Validation.Consistency

/-!
The names of the constraints that blocks add. A block is skipped where a constraint of its name
exists, in any case, so that two constraints of one name come down to the first. An enum check is
never taken for a foreign key; two checks, or two foreign keys, have one name exactly when their
columns are named alike but for case.
-/

namespace TableSchema

open Text
open Validation (IsErrorFree)

theorem Value.exists_text_of_text? {value : Value} (h : value.text?.isSome = true) :
    ∃ s, value = .text s := by
  obtain ⟨s, found⟩ := Option.isSome_iff_exists.1 h
  exact ⟨s, (text?_eq_some_iff value s).1 found⟩

structure Addition where
  name : String
  clause : String
  deriving DecidableEq

namespace Addition

def block (table : String) (a : Addition) : String :=
  Descriptor.conditionalBlock table a.name
    (Descriptor.addConstraintText table a.name a.clause)

/-- The name as blocks compare it. -/
def key (a : Addition) : String :=
  lower a.name

/-- The constraints of the table once a block has run. -/
def addTo (existing : List Addition) (a : Addition) : List Addition :=
  if a.key ∈ existing.map key then existing else existing ++ [a]

/-- The constraints of a table that had none, once all blocks have run in turn. -/
def install (additions : List Addition) : List Addition :=
  additions.foldl addTo []

theorem addTo_of_not_mem {existing : List Addition} {a : Addition}
    (fresh : a.key ∉ existing.map key) : addTo existing a = existing ++ [a] :=
  if_neg fresh

theorem nodup_addTo {existing : List Addition} (distinct : (existing.map key).Nodup)
    (a : Addition) : ((addTo existing a).map key).Nodup := by
  unfold addTo
  split
  next => exact distinct
  next fresh =>
    rw [List.map_append, List.map_singleton]
    exact List.nodup_append_comm.1 (List.nodup_cons.2 ⟨fresh, distinct⟩)

theorem nodup_foldl_addTo (additions : List Addition) {existing : List Addition}
    (distinct : (existing.map key).Nodup) :
    ((additions.foldl addTo existing).map key).Nodup := by
  induction additions generalizing existing with
  | nil => exact distinct
  | cons a additions ih => exact ih (nodup_addTo distinct a)

theorem foldl_addTo_of_nodup {existing additions : List Addition}
    (distinct : ((existing ++ additions).map key).Nodup) :
    additions.foldl addTo existing = existing ++ additions := by
  induction additions generalizing existing with
  | nil => exact (List.append_nil existing).symm
  | cons a additions ih =>
    have together : existing ++ a :: additions = (existing ++ [a]) ++ additions :=
      List.append_cons existing a additions
    rw [together] at distinct
    have fresh : a.key ∉ existing.map key := by
      rw [List.map_append, List.map_append] at distinct
      intro mem
      have apart := List.disjoint_of_nodup_append (List.Nodup.of_append_left distinct)
      exact apart mem (List.mem_singleton.2 rfl)
    rw [List.foldl_cons, addTo_of_not_mem fresh, ih distinct, together]

/-- Nothing is skipped exactly when no two of the names are equal in lower case. -/
theorem install_eq_self_iff (additions : List Addition) :
    install additions = additions ↔ (additions.map key).Nodup := by
  constructor
  · intro whole
    rw [← whole]
    exact nodup_foldl_addTo additions List.nodup_nil
  · intro distinct
    have whole : additions.foldl addTo [] = [] ++ additions := foldl_addTo_of_nodup distinct
    exact whole

end Addition

namespace Descriptor

variable {d : Descriptor} {table : String}

def enumColumns (d : Descriptor) : List Column :=
  d.columns.filter fun c => c.enumValues.isSome

def enumAddition (table : String) (c : Column) : Addition where
  name := enumConstraintName table c.name
  clause := enumCheck c.name (c.enumValues.getD [])

def foreignKeyAddition (table : String) (fk : ForeignKey) : Addition where
  name := foreignKeyConstraintName table fk
  clause := foreignKeyClause fk (lower fk.referencedTable.display)

/-- What the blocks of the table add, enum checks first. -/
def additions (d : Descriptor) (table : String) : List Addition :=
  d.enumColumns.map (enumAddition table) ++ d.constraints.map (foreignKeyAddition table)

structure HasTextNames (d : Descriptor) : Prop where
  tableName : ∃ s, d.tableName = .text s
  columns : ∀ c ∈ d.columns, ∃ s, c.name = .text s
  localColumns : ∀ fk ∈ d.constraints, ∃ s, fk.localColumn = .text s
  referencedTables : ∀ fk ∈ d.constraints, ∃ s, fk.referencedTable = .text s

/-- Two enum columns whose names differ, but in nothing but case. -/
def HasCaseTwins (d : Descriptor) : Prop :=
  ∃ c ∈ d.enumColumns, ∃ c' ∈ d.enumColumns,
    c.name ≠ c'.name ∧ lower c.name.display = lower c'.name.display

/-- Two foreign keys that start from one column, or from two whose names differ in nothing but
case. -/
def HasKeyTwins (d : Descriptor) : Prop :=
  ¬ (d.constraints.map fun fk => lower fk.localColumn.display).Nodup

instance (d : Descriptor) : Decidable d.HasCaseTwins :=
  inferInstanceAs (Decidable (∃ c ∈ d.enumColumns, ∃ c' ∈ d.enumColumns, _ ∧ _))

instance (d : Descriptor) : Decidable d.HasKeyTwins :=
  inferInstanceAs (Decidable (¬ _))

theorem enumConstraintBlocks_eq (d : Descriptor) (table : String) :
    d.enumConstraintBlocks table =
      (d.enumColumns.map (enumAddition table)).map (·.block table) := by
  unfold enumConstraintBlocks enumColumns
  induction d.columns with
  | nil => rfl
  | cons c columns ih =>
    cases values : c.enumValues with
    | none => simpa [values] using ih
    | some es =>
      have own : (enumAddition table c).block table = enumConstraintBlock table c.name es := by
        rw [enumAddition, values]
        rfl
      simpa [values, own] using ih

theorem lower_constraintName (table column suffix : String) (plain : lower suffix = suffix) :
    lower (table ++ "_" ++ column ++ ("_" ++ suffix)) =
      lower table ++ "_" ++ lower column ++ ("_" ++ suffix) := by
  rw [← String.append_assoc, lower_append_underscore_append, lower_append_underscore_append,
    plain, String.append_assoc]

theorem key_enumAddition (table : String) (c : Column) :
    (enumAddition table c).key = lower table ++ "_" ++ lower c.name.display ++ "_enum_chk" :=
  lower_constraintName table c.name.display "enum_chk" (by decide)

theorem key_foreignKeyAddition (table : String) (fk : ForeignKey) :
    (foreignKeyAddition table fk).key =
      lower table ++ "_" ++ lower fk.localColumn.display ++ "_fk" :=
  lower_constraintName table fk.localColumn.display "fk" (by decide)

theorem key_enumAddition_ne (table : String) (c : Column) (fk : ForeignKey) :
    (enumAddition table c).key ≠ (foreignKeyAddition table fk).key := by
  rw [key_enumAddition, key_foreignKeyAddition]
  generalize lower table ++ "_" ++ lower c.name.display = check
  generalize lower table ++ "_" ++ lower fk.localColumn.display = key
  intro same
  have chars : check.toList ++ "_enum_chk".toList = key.toList ++ "_fk".toList := by
    rw [← String.toList_append, same, String.toList_append]
  have ends : (check.toList ++ "_enum_c".toList) ++ ['h', 'k'] =
      (key.toList ++ ['_']) ++ ['f', 'k'] := by
    rw [List.append_assoc, List.append_assoc]
    exact chars
  exact absurd (List.append_inj' ends rfl).2 (by decide)

theorem nodup_map_joined {α : Type} (before after : String) (f : α → String) (xs : List α) :
    (xs.map fun x => before ++ f x ++ after).Nodup ↔ (xs.map f).Nodup := by
  have joined : (fun s => before ++ s ++ after).Injective := by
    intro s t same
    exact (String.append_right_inj before).1 ((String.append_left_inj after).1 same)
  have image : (xs.map f).map (fun s => before ++ s ++ after) =
      xs.map fun x => before ++ f x ++ after := List.map_map
  rw [← image, List.nodup_map_iff joined]

theorem nodup_keys_iff (d : Descriptor) (table : String) :
    ((d.additions table).map Addition.key).Nodup ↔
      (d.enumColumns.map fun c => lower c.name.display).Nodup ∧
        (d.constraints.map fun fk => lower fk.localColumn.display).Nodup := by
  have checks : ((d.enumColumns.map (enumAddition table)).map Addition.key).Nodup ↔
      (d.enumColumns.map fun c => lower c.name.display).Nodup := by
    simp only [List.map_map, Function.comp_def, key_enumAddition]
    exact nodup_map_joined _ _ _ d.enumColumns
  have keys : ((d.constraints.map (foreignKeyAddition table)).map Addition.key).Nodup ↔
      (d.constraints.map fun fk => lower fk.localColumn.display).Nodup := by
    simp only [List.map_map, Function.comp_def, key_foreignKeyAddition]
    exact nodup_map_joined _ _ _ d.constraints
  have apart : ((d.enumColumns.map (enumAddition table)).map Addition.key).Disjoint
      ((d.constraints.map (foreignKeyAddition table)).map Addition.key) := by
    intro name check key
    simp only [List.map_map, List.mem_map, Function.comp_apply] at check key
    obtain ⟨c, -, rfl⟩ := check
    obtain ⟨fk, -, same⟩ := key
    exact key_enumAddition_ne table c fk same.symm
  rw [additions, List.map_append, List.nodup_append', checks, keys]
  exact ⟨fun ⟨first, second, _⟩ => ⟨first, second⟩, fun ⟨first, second⟩ => ⟨first, second, apart⟩⟩

theorem nodup_lower_enumColumns_iff (distinct : (d.columns.map Column.name).Nodup) :
    (d.enumColumns.map fun c => lower c.name.display).Nodup ↔ ¬ d.HasCaseTwins := by
  constructor
  · rintro apart ⟨c, hc, c', hc', differ, same⟩
    have equal : c = c' := List.inj_on_of_nodup_map apart hc hc' same
    exact differ (congrArg Column.name equal)
  · intro untwinned
    have columns : d.enumColumns.Nodup := (List.Nodup.of_map Column.name distinct).filter _
    refine List.Nodup.map_on (fun c hc c' hc' same => ?_) columns
    have names : c.name = c'.name := by
      by_contra differ
      exact untwinned ⟨c, hc, c', hc', differ, same⟩
    exact List.inj_on_of_nodup_map distinct (List.mem_filter.1 hc).1 (List.mem_filter.1 hc').1 names

/-- What the blocks of a table add, and when none of them stands in the way of another. -/
structure AddsApart (d : Descriptor) (table : String) : Prop where
  enumBlocks : d.sqlCreateEnumConstraints.outcome =
    .ok ((d.enumColumns.map (enumAddition table)).map (·.block table))
  foreignKeyBlocks : d.sqlCreateTableConstraints.outcome =
    .ok ((d.constraints.map (foreignKeyAddition table)).map (·.block table))
  /-- An enum check is never taken for a foreign key. -/
  kinds : ∀ c ∈ d.enumColumns, ∀ fk ∈ d.constraints,
    (enumAddition table c).key ≠ (foreignKeyAddition table fk).key
  names : ((d.additions table).map Addition.key).Nodup ↔ ¬ d.HasCaseTwins ∧ ¬ d.HasKeyTwins
  /-- All blocks, run once on a table without constraints, add what each of them is to add. -/
  installed : Addition.install (d.additions table) = d.additions table ↔
    ¬ d.HasCaseTwins ∧ ¬ d.HasKeyTwins

/-- Where validation has nothing to report, no constraint is skipped for another unless two enum
columns differ in nothing but case, or two foreign keys start from one column. -/
theorem addsApart_of_clean (d : Descriptor) (named : d.HasTextNames)
    (clean : d.validate.outcome = .ok []) :
    ∃ table, d.sqlName = .ok table ∧ d.AddsApart table := by
  obtain ⟨name, text⟩ := named.tableName
  have sqlName : d.sqlName = .ok (lower name) := sqlName_eq text
  rw [validate, Validation.validate_outcome] at clean
  have consistent :=
    Validation.isConsistent_of_errorFree named.columns clean (by simp [IsErrorFree])
  have names : ((d.additions (lower name)).map Addition.key).Nodup ↔
      ¬ d.HasCaseTwins ∧ ¬ d.HasKeyTwins := by
    rw [nodup_keys_iff, nodup_lower_enumColumns_iff consistent.names, HasKeyTwins, not_not]
  refine ⟨lower name, sqlName, ?_, ?_, fun c _ fk _ => key_enumAddition_ne _ c fk, names,
    (Addition.install_eq_self_iff _).trans names⟩
  · rw [sqlCreateEnumConstraints_eq sqlName, enumConstraintBlocks_eq]
  · rw [sqlCreateTableConstraints_eq sqlName named.referencedTables, List.map_map]
    rfl

def reviewTable : Descriptor where
  tableName := .text "Reviews"
  aliasName := "r"
  columns :=
    [{ name := .text "id", primaryKey := .bool true },
     { name := .text "author" },
     { name := .text "kind", enumValues := some [⟨.text "short", .null⟩, ⟨.text "long", .null⟩] }]
  constraints :=
    [{ localColumn := .text "author"
       referencedTable := .text "People"
       referencedColumn := .text "id" }]
  settings := {}

def keyTwinTable : Descriptor :=
  { reviewTable with
    constraints := reviewTable.constraints ++
      [{ localColumn := .text "author"
         referencedTable := .text "Accounts"
         referencedColumn := .text "id" }] }

def caseTwinTable : Descriptor :=
  { reviewTable with
    columns := reviewTable.columns ++
      [{ name := .text "Kind", enumValues := some [⟨.int 1, .null⟩] }] }

theorem hasTextNames_of_reviewTable {columns : List Column} {constraints : List ForeignKey}
    (names : ∀ c ∈ columns, c.name.text?.isSome = true)
    (keys : ∀ fk ∈ constraints, fk.localColumn.text?.isSome = true ∧
      fk.referencedTable.text?.isSome = true) :
    HasTextNames { reviewTable with columns, constraints } where
  tableName := ⟨"Reviews", rfl⟩
  columns := fun c hc => Value.exists_text_of_text? (names c hc)
  localColumns := fun fk hfk => Value.exists_text_of_text? (keys fk hfk).1
  referencedTables := fun fk hfk => Value.exists_text_of_text? (keys fk hfk).2

theorem addsApart_of_reviewTable :
    (∃ table, reviewTable.sqlName = .ok table ∧
      Addition.install (reviewTable.additions table) = reviewTable.additions table ∧
      (reviewTable.additions table).length = 2) ∧
    (caseTwinTable.validate.outcome = .ok [] ∧
      ∃ table, caseTwinTable.sqlName = .ok table ∧
        Addition.install (caseTwinTable.additions table) ≠ caseTwinTable.additions table) := by
  obtain ⟨table, sqlName, apart⟩ := addsApart_of_clean reviewTable
    (hasTextNames_of_reviewTable (by decide) (by decide)) rfl
  obtain ⟨table', sqlName', twins⟩ := addsApart_of_clean caseTwinTable
    (hasTextNames_of_reviewTable (by decide) (by decide)) rfl
  refine ⟨⟨table, sqlName, apart.installed.2 (by decide), rfl⟩, rfl, table', sqlName', ?_⟩
  intro whole
  exact absurd (twins.installed.1 whole).1 (by decide)

/-- That validation has nothing to report is not enough for the names to be told apart. -/
theorem not_forall_names_apart :
    ¬ ∀ (d : Descriptor) (table : String), d.HasTextNames → d.validate.outcome = .ok [] →
      d.sqlName = .ok table → ((d.additions table).map Addition.key).Nodup := by
  intro apart
  have names := apart keyTwinTable (lower "Reviews")
    (hasTextNames_of_reviewTable (by decide) (by decide)) rfl rfl
  rw [nodup_keys_iff] at names
  exact absurd names.2 (by decide)

end Descriptor

end TableSchema
