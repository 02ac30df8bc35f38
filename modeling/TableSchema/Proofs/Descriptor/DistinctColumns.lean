import Mathlib.Data.List.Nodup
import TableSchema.Proofs.Descriptor.MatchedColumns
import TableSchema.Proofs.Validation.Consistency

/-!
Inserts and updates of a table that is consistent. Where columns are told apart by their names, no
column is assigned or filled twice, and an update does not assign the column that it is matched on.
-/

namespace TableSchema.Descriptor

open Validation (IsConsistent)

variable {d : Descriptor} {data : Value}

/-- The update that assigns the named columns and is matched on the key, or on null without one. -/
def namedUpdate (d : Descriptor) (names : List String) (key? : Option String) (table : String) :
    String :=
  "UPDATE " ++ table ++ " AS " ++ d.aliasName ++ " SET " ++
    ", ".intercalate (names.map fun n => d.reference n ++ " = $" ++ d.prefixed n) ++ " WHERE " ++
    (key?.map d.reference).getD "null" ++ " = $" ++ (key?.map d.prefixed).getD "null"

def placeholder (d : Descriptor) (name : String) : String :=
  "$" ++ d.prefixed name

def namedInsert (d : Descriptor) (names : List String) (table : String) : String :=
  "INSERT INTO " ++ table ++ " AS " ++ d.aliasName ++ " (" ++
    ", ".intercalate (names.map d.reference) ++ ") VALUES (" ++
    ", ".intercalate (names.map d.placeholder) ++ ")"

structure IsKeyedUpdate (d : Descriptor) (data : Value) (names : List String)
    (key? : Option String) : Prop where
  /-- The only fault is that of a table whose name is no text. -/
  rendered : (d.sqlUpdate data).outcome = d.namedUpdate names key? <$> d.sqlName
  assigned : ∀ n, n ∈ names ↔ ∃ c ∈ d.columns, c.name = .text n ∧ c.isPrimary = false ∧
    data.contains (.text n) = true
  distinct : names.Nodup
  unassigned : ∀ key, key? = some key → key ∉ names
  /-- Every primary key is the one that the update is matched on. -/
  matched : ∀ key, key? = some key ↔ ∃ c ∈ d.columns, c.isPrimary = true ∧ c.name = .text key

structure IsDistinctInsert (d : Descriptor) (data : Value) (names : List String) : Prop where
  rendered : names ≠ [] → (d.sqlInsert data).outcome = d.namedInsert names <$> d.sqlName
  empty : names = [] → (d.sqlInsert data).outcome = .ok ""
  filled : ∀ n, n ∈ names ↔ ∃ c ∈ d.columns, c.name = .text n ∧
    data.contains (.text (d.prefixed n)) = true
  targets : (names.map d.reference).Nodup
  placeholders : (names.map d.placeholder).Nodup

theorem updateText_eq_namedUpdate (d : Descriptor) (table : String) (columns : List Column) :
    d.updateText table columns = d.namedUpdate (columns.map fun c => c.name.display)
      (d.primaryColumn?.map fun c => c.name.display) table := by
  have assignments : (columns.map fun c => c.name.display).map
      (fun n => d.reference n ++ " = $" ++ d.prefixed n) = columns.map d.assignment := List.map_map
  have field : (d.primaryColumn?.map fun c => c.name.display).map d.reference =
      d.primaryKey? false := Option.map_map ..
  have parameter : (d.primaryColumn?.map fun c => c.name.display).map d.prefixed =
      d.primaryKey? true := Option.map_map ..
  unfold updateText namedUpdate
  rw [assignments, field, parameter]

theorem insertText_eq_namedInsert (d : Descriptor) (table : String) (columns : List Column) :
    d.insertText table columns = d.namedInsert (columns.map fun c => c.name.display) table := by
  have targets : (columns.map fun c => c.name.display).map d.reference =
      columns.map fun c => d.reference c.name.display := List.map_map
  have placeholders : (columns.map fun c => c.name.display).map d.placeholder =
      columns.map fun c => "$" ++ d.prefixed c.name.display := List.map_map
  unfold insertText namedInsert
  rw [targets, placeholders]

theorem reference_injective (d : Descriptor) : Function.Injective d.reference := by
  intro a b same
  exact (String.append_right_inj _).1 same

theorem placeholder_injective (d : Descriptor) : Function.Injective d.placeholder := by
  intro a b same
  exact (String.append_right_inj _).1 ((String.append_right_inj _).1 same)

section Consistent

variable (named : ∀ c ∈ d.columns, ∃ s, c.name = .text s)
  (consistent : IsConsistent d.columns d.constraints)

include named

theorem name_eq_text_display {c : Column} (hc : c ∈ d.columns) :
    c.name = .text c.name.display := by
  obtain ⟨s, text⟩ := named c hc
  rw [text]
  rfl

theorem exists_mem_filter_iff (p : Column → Bool) (n : String) :
    n ∈ (d.columns.filter p).map (fun c => c.name.display) ↔
      ∃ c ∈ d.columns, c.name = .text n ∧ p c = true := by
  rw [List.mem_map]
  constructor
  · rintro ⟨c, mem, rfl⟩
    obtain ⟨hc, hp⟩ := List.mem_filter.1 mem
    exact ⟨c, hc, name_eq_text_display named hc, hp⟩
  · rintro ⟨c, hc, text, hp⟩
    exact ⟨c, List.mem_filter.2 ⟨hc, hp⟩, by rw [text]; rfl⟩

omit named in
include consistent in
theorem primaryColumn?_eq_some {c : Column} (hc : c ∈ d.columns) (primary : c.isPrimary = true) :
    d.primaryColumn? = some c := by
  have mem : c ∈ d.columns.filter Column.isPrimary := List.mem_filter.2 ⟨hc, primary⟩
  have single := consistent.primary
  rw [primaryColumn?, ← List.head?_filter]
  cases others : d.columns.filter Column.isPrimary with
  | nil => exact absurd (others ▸ mem) List.not_mem_nil
  | cons first rest =>
    rw [others, List.length_cons] at single
    obtain rfl : rest = [] := List.eq_nil_of_length_eq_zero (by omega)
    rw [others, List.mem_singleton] at mem
    rw [mem, List.head?_cons]

include consistent

theorem nodup_displays : (d.columns.map fun c => c.name.display).Nodup := by
  have texts : d.columns.map Column.name = (d.columns.map fun c => c.name.display).map .text := by
    rw [List.map_map]
    exact List.map_congr_left fun c hc => name_eq_text_display named hc
  exact List.Nodup.of_map Value.text (texts ▸ consistent.names)

theorem nodup_filter_displays (p : Column → Bool) :
    ((d.columns.filter p).map fun c => c.name.display).Nodup :=
  (nodup_displays named consistent).sublist (List.filter_sublist.map _)

theorem key_iff (key : String) : d.primaryColumn?.map (fun c => c.name.display) = some key ↔
    ∃ c ∈ d.columns, c.isPrimary = true ∧ c.name = .text key := by
  rw [Option.map_eq_some_iff]
  constructor
  · rintro ⟨c, found, rfl⟩
    have hc := List.mem_of_find?_eq_some found
    exact ⟨c, hc, List.find?_some found, name_eq_text_display named hc⟩
  · rintro ⟨c, hc, primary, text⟩
    exact ⟨c, primaryColumn?_eq_some consistent hc primary, by rw [text]; rfl⟩

theorem isKeyedUpdate (keys : data.IsKeySet) :
    d.IsKeyedUpdate data ((d.assigned data).map fun c => c.name.display)
      (d.primaryColumn?.map fun c => c.name.display) where
  rendered := by
    rw [sqlUpdate_outcome named keys]
    congr 1
    funext table
    exact updateText_eq_namedUpdate d table (d.assigned data)
  assigned := by
    intro n
    rw [Descriptor.assigned, exists_mem_filter_iff named]
    refine exists_congr fun c => and_congr_right fun _ => and_congr_right fun text => ?_
    rw [text, Bool.and_eq_true, Bool.not_eq_true']
    exact and_comm
  distinct := nodup_filter_displays named consistent _
  unassigned := by
    intro key matched mem
    obtain ⟨c, hc, primary, text⟩ := (key_iff named consistent key).1 matched
    obtain ⟨c', hc', text', other⟩ := (exists_mem_filter_iff named _ key).1 mem
    have same : c = c' := by
      refine List.inj_on_of_nodup_map consistent.names hc hc' ?_
      rw [text, text']
    rw [← same, primary] at other
    exact absurd other (by simp)
  matched := key_iff named consistent

theorem isDistinctInsert (keys : data.IsKeySet) :
    d.IsDistinctInsert data ((d.inserted data).map fun c => c.name.display) where
  rendered := by
    intro present
    have columns : d.inserted data ≠ [] := fun none => present (by rw [none]; rfl)
    rw [sqlInsert_outcome keys columns]
    congr 1
    funext table
    exact insertText_eq_namedInsert d table (d.inserted data)
  empty := by
    intro none
    have columns := insertColumns_eq_ok (d := d) keys
    rw [List.map_eq_nil_iff.1 none] at columns
    rw [sqlInsert_eq_empty columns]
  filled := by
    intro n
    rw [Descriptor.inserted, exists_mem_filter_iff named]
    refine exists_congr fun c => and_congr_right fun _ => and_congr_right fun text => ?_
    rw [insertKey, text]
    rfl
  targets := (nodup_filter_displays named consistent _).map d.reference_injective
  placeholders := (nodup_filter_displays named consistent _).map d.placeholder_injective

end Consistent

end TableSchema.Descriptor
