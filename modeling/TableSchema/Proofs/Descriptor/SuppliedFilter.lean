import Mathlib.Data.List.Forall2
import TableSchema.Proofs.Descriptor.Extension
import TableSchema.Proofs.Descriptor.Generation

/-!
What becomes of the filters that a statement is given. Each of them comes out as one condition, or
the statement is not rendered at all; a mapping without any keys is the exception and counts as no
filter.
-/

namespace TableSchema

theorem mapM_eq_ok_of_forall {α β : Type} {read : α → Except Fault β} {g : α → β} {items : List α}
    (h : ∀ a ∈ items, read a = .ok (g a)) : items.mapM read = .ok (items.map g) := by
  rw [mapM_eq_ok_iff, List.map_map]
  exact List.map_congr_left h

theorem mapM_eq_error_of_exists {α β : Type} {read : α → Except Fault β} {items : List α}
    {P : Fault → Prop} (faults : ∀ a ∈ items, ∀ fault, read a = .error fault → P fault)
    (h : ∃ a ∈ items, ∃ fault, read a = .error fault) :
    ∃ fault, P fault ∧ items.mapM read = .error fault := by
  induction items with
  | nil =>
    obtain ⟨a, mem, -⟩ := h
    exact absurd mem List.not_mem_nil
  | cons a items ih =>
    rw [List.mapM_cons]
    cases first : read a with
    | error fault => exact ⟨fault, faults a List.mem_cons_self fault first, rfl⟩
    | ok b =>
      have later : ∃ a ∈ items, ∃ fault, read a = .error fault := by
        obtain ⟨x, mem, fault, failed⟩ := h
        rcases List.mem_cons.1 mem with rfl | mem
        · exact absurd (first.symm.trans failed) (by simp)
        · exact ⟨x, mem, fault, failed⟩
      obtain ⟨fault, kind, others⟩ := ih (fun x mem => faults x (List.mem_cons_of_mem a mem)) later
      rw [others]
      exact ⟨fault, kind, rfl⟩

namespace Filter

variable {r : Record} {f : Filter} {given value : Value} {fields : List Record}

inductive Describes : Value → Record → Prop
  | mapping (r : Record) : Describes (.record r) r
  | built {r : Record} (known : r.checkPart .filter = .ok ()) : Describes (.part .filter r) r

inductive Supplies : Value → List Record → Prop
  | one {value : Value} {r : Record} (entry : Describes value r) : Supplies value [r]
  | list {items : List Value} {fields : List Record}
      (entries : List.Forall₂ Describes items fields) : Supplies (.list items) fields
  | row {items : List Value} {fields : List Record}
      (entries : List.Forall₂ Describes items fields) : Supplies (.row items) fields

def NamesColumn (r : Record) : Prop :=
  (r.pick ["column"]).isNull = false ∨ (r.pick ["alias"]).isNull = false

instance (r : Record) : Decidable (NamesColumn r) :=
  inferInstanceAs (Decidable (_ ∨ _))

def described (r : Record) : Filter where
  column := r.pick ["column"]
  aliasName := r.pick ["alias"]
  operator := (r.get? "operator").getD (.text "=")
  value := r.pick ["value"]

theorem ofRecord_eq_ok (h : NamesColumn r) : ofRecord r = .ok (described r) :=
  (checked_eq_ok_iff _ _).2 ⟨rfl, h⟩

theorem ofRecord_eq_error (h : ¬ NamesColumn r) : ofRecord r = .error .filterWithoutColumn := by
  rw [NamesColumn, not_or, Bool.not_eq_false, Bool.not_eq_false] at h
  rw [ofRecord, checked, if_pos]
  exact Bool.and_eq_true_iff.2 h

theorem ofValue_of_describes (h : Describes value r) : ofValue value = ofRecord r := by
  cases h with
  | mapping => rfl
  | built known =>
    rw [ofValue, ofFields, known]
    rfl

theorem mapM_ofValue {items : List Value} (h : List.Forall₂ Describes items fields) :
    items.mapM ofValue = fields.mapM ofRecord := by
  induction h with
  | nil => rfl
  | cons entry _ ih => rw [List.mapM_cons, List.mapM_cons, ofValue_of_describes entry, ih]

theorem mapM_singleton (r : Record) :
    [r].mapM ofRecord = (fun f => [f]) <$> ofRecord r := by
  rw [List.mapM_cons]
  cases ofRecord r <;> rfl

theorem listOf_eq_nil (h : given.isTrue = false) : listOf given = .ok [] := by
  unfold listOf
  rw [h]
  rfl

theorem listOf_of_isTrue (h : given.isTrue = true)
    (several : (∀ r, given ≠ .record r) ∧ ∀ r, given ≠ .part .filter r) :
    listOf given = given.elements >>= fun entries => entries.mapM ofValue := by
  unfold listOf
  rw [h]
  split
  next negated => exact absurd negated (by decide)
  next =>
    split
    next r => exact absurd rfl (several.1 r)
    next r => exact absurd rfl (several.2 r)
    next => rfl

theorem isEmpty_eq_false {items : List Value} (entries : List.Forall₂ Describes items fields)
    (nonempty : fields ≠ []) : items.isEmpty = false := by
  cases entries with
  | nil => exact absurd rfl nonempty
  | cons => rfl

theorem listOf_of_supplies (h : Supplies given fields) (nonempty : fields ≠ [])
    (keyed : given ≠ .record []) : listOf given = fields.mapM ofRecord := by
  cases h with
  | @one _ r entry =>
    have single := ofValue_of_describes entry
    rw [mapM_singleton, ← single]
    cases entry with
    | mapping =>
      cases r with
      | nil => exact absurd rfl keyed
      | cons => rfl
    | built => rfl
  | @list items _ entries =>
    have asked : (Value.list items).isTrue = true := by
      rw [Value.isTrue, isEmpty_eq_false entries nonempty]
      rfl
    rw [listOf_of_isTrue asked (by simp), ← mapM_ofValue entries]
    rfl
  | @row items _ entries =>
    have asked : (Value.row items).isTrue = true := by
      rw [Value.isTrue, isEmpty_eq_false entries nonempty]
      rfl
    rw [listOf_of_isTrue asked (by simp), ← mapM_ofValue entries]
    rfl

structure IsRenderable (f : Filter) : Prop where
  aliasName : f.aliasName = .null ∨ ∃ s, f.aliasName = .text s
  comparison : f.value = .null → ∃ s, f.comparison = .text s

end Filter

namespace Descriptor

open TableSchema.Filter

variable {d : Descriptor} {f : Filter} {table : String} {given : Value} {fields : List Record}

def conditionText (d : Descriptor) (f : Filter) : String :=
  let name :=
    if f.aliasName.isNull then f.column.display else d.aliasToColumnName f.aliasName.display
  let test :=
    if f.value.isNull then nullTest f.comparison.display
    else f.comparison.display ++ " " ++ Literal.ofFilter f.value
  d.reference name ++ " " ++ test

theorem requireText_eq_error {value : Value} (use : Use) (h : ∀ s, value ≠ .text s) :
    value.requireText use = .error (.unfit value.kind use) := by
  cases value with
  | text s => exact absurd rfl (h s)
  | _ => rfl

theorem filterColumn_of_renderable (h : f.IsRenderable) :
    d.filterColumn f = .ok (d.reference
      (if f.aliasName.isNull then f.column.display
      else d.aliasToColumnName f.aliasName.display)) := by
  unfold filterColumn
  rcases h.aliasName with null | ⟨s, text⟩
  · rw [null]
    rfl
  · rw [text]
    rfl

theorem filterTest_of_renderable (h : f.IsRenderable) :
    filterTest f = .ok (if f.value.isNull then nullTest f.comparison.display
      else f.comparison.display ++ " " ++ Literal.ofFilter f.value) := by
  unfold filterTest
  cases null : f.value.isNull with
  | false => rfl
  | true =>
    obtain ⟨s, text⟩ := h.comparison ((Value.isNull_iff f.value).1 null)
    rw [text]
    rfl

theorem condition_eq_ok (h : f.IsRenderable) : d.condition f = .ok (d.conditionText f) := by
  rw [condition, filterColumn_of_renderable h, filterTest_of_renderable h]
  rfl

theorem condition_refused (h : ¬ f.IsRenderable) :
    ∃ kind use, d.condition f = .error (.unfit kind use) := by
  by_cases aliasName : f.aliasName = .null ∨ ∃ s, f.aliasName = .text s
  · have wide : ¬ (f.value = .null → ∃ s, f.comparison = .text s) := fun ok => h ⟨aliasName, ok⟩
    rw [Classical.not_imp, not_exists] at wide
    have column : ∃ column, d.filterColumn f = .ok column := by
      rcases aliasName with null | ⟨s, text⟩
      · exact ⟨_, by rw [filterColumn, null]; rfl⟩
      · exact ⟨_, by rw [filterColumn, text]; rfl⟩
    obtain ⟨column, columns⟩ := column
    have test : filterTest f = .error (.unfit f.comparison.kind .upperCase) := by
      rw [filterTest, wide.1, requireText_eq_error .upperCase wide.2]
      rfl
    refine ⟨f.comparison.kind, .upperCase, ?_⟩
    rw [condition, columns, test]
    rfl
  · rw [not_or, not_exists] at aliasName
    have present : f.aliasName.isNull = false := by
      rw [← Bool.not_eq_true, Value.isNull_iff]
      exact aliasName.1
    refine ⟨f.aliasName.kind, .beginning, ?_⟩
    rw [condition, filterColumn, present, requireText_eq_error .beginning aliasName.2]
    rfl

theorem whereClause_of_supplies (supplied : Supplies given fields) (nonempty : fields ≠ [])
    (keyed : given ≠ .record []) : d.whereClause given = do
      let filters ← fields.mapM ofRecord
      let conditions ← filters.mapM d.condition
      return whereText conditions := by
  rw [whereClause, listOf_of_supplies supplied nonempty keyed]

structure KeepsFilters (d : Descriptor) (given : Value) (fields : List Record) : Prop where
  nameless : (∃ r ∈ fields, ¬ NamesColumn r) → d.whereClause given = .error .filterWithoutColumn
  rendered : (∀ r ∈ fields, NamesColumn r) → (∀ r ∈ fields, (described r).IsRenderable) →
    d.whereClause given =
      .ok (" WHERE " ++ " AND ".intercalate (fields.map fun r => d.conditionText (described r)))
  /-- An alias or an operator of a kind that no filter is made of. -/
  refused : (∀ r ∈ fields, NamesColumn r) → (∃ r ∈ fields, ¬ (described r).IsRenderable) →
    ∃ kind use, d.whereClause given = .error (.unfit kind use)

theorem keepsFilters (supplied : Supplies given fields) (nonempty : fields ≠ [])
    (keyed : given ≠ .record []) : d.KeepsFilters given fields := by
  have clause := whereClause_of_supplies (d := d) supplied nonempty keyed
  have read (columns : ∀ r ∈ fields, NamesColumn r) :
      fields.mapM ofRecord = .ok (fields.map described) :=
    mapM_eq_ok_of_forall fun r hr => ofRecord_eq_ok (columns r hr)
  refine ⟨?_, ?_, ?_⟩
  · rintro ⟨r, hr, nameless⟩
    obtain ⟨_, rfl, unread⟩ := mapM_eq_error_of_exists (P := (· = .filterWithoutColumn))
      (fun x _ fault failed => by
        by_cases column : NamesColumn x
        · exact absurd (ofRecord_eq_ok column ▸ failed) (by simp)
        · exact (Except.error.inj ((ofRecord_eq_error column).symm.trans failed)).symm)
      ⟨r, hr, _, ofRecord_eq_error nameless⟩
    rw [clause, unread]
    rfl
  · intro columns renderable
    have conditions : (fields.map described).mapM d.condition =
        .ok ((fields.map described).map d.conditionText) := by
      refine mapM_eq_ok_of_forall fun f hf => ?_
      obtain ⟨r, hr, rfl⟩ := List.mem_map.1 hf
      exact condition_eq_ok (renderable r hr)
    rw [clause, read columns]
    change ((fields.map described).mapM d.condition >>= fun texts => pure (whereText texts)) = _
    rw [conditions, List.map_map]
    cases fields with
    | nil => exact absurd rfl nonempty
    | cons => rfl
  · rintro columns ⟨r, hr, unfit⟩
    obtain ⟨kind, use, failed⟩ := condition_refused (d := d) unfit
    obtain ⟨_, ⟨kind, use, rfl⟩, unrendered⟩ := mapM_eq_error_of_exists
      (P := fun fault => ∃ kind use, fault = .unfit kind use)
      (fun f _ fault failed => by
        by_cases renderable : f.IsRenderable
        · exact absurd ((condition_eq_ok renderable).symm.trans failed) (by simp)
        · obtain ⟨kind, use, same⟩ := condition_refused (d := d) renderable
          exact ⟨kind, use, (Except.error.inj (same.symm.trans failed)).symm⟩)
      ⟨described r, List.mem_map_of_mem hr, _, failed⟩
    refine ⟨kind, use, ?_⟩
    rw [clause, read columns]
    change ((fields.map described).mapM d.condition >>= fun texts => pure (whereText texts)) = _
    rw [unrendered]
    rfl

theorem KeepsFilters.ne_empty (kept : d.KeepsFilters given fields) :
    d.whereClause given ≠ .ok "" := by
  intro bare
  by_cases columns : ∀ r ∈ fields, NamesColumn r
  · by_cases renderable : ∀ r ∈ fields, (described r).IsRenderable
    · have clause := bare.symm.trans (kept.rendered columns renderable)
      have texts := congrArg String.toList (Except.ok.inj clause)
      rw [String.toList_append] at texts
      exact absurd texts (by simp)
    · obtain ⟨kind, use, failed⟩ := kept.refused columns (by simpa using renderable)
      exact absurd (bare.symm.trans failed) (by simp)
  · exact absurd (bare.symm.trans (kept.nameless (by simpa using columns))) (by simp)

/-- What can be given as filters: null, or what holds any number of them. -/
def IsArgument (given : Value) : Prop :=
  given = .null ∨ ∃ fields, Supplies given fields

theorem whereClause_eq_empty_iff (argument : IsArgument given) :
    d.whereClause given = .ok "" ↔
      given ∈ [.null, .list [], .row [], .record ([] : List (String × Value))] := by
  constructor
  · intro bare
    rcases argument with rfl | ⟨fields, supplied⟩
    · exact List.mem_cons_self
    · by_cases keyless : given = .record []
      · simp [keyless]
      · by_cases none : fields = []
        · subst none
          cases supplied with
          | list entries => cases entries; simp
          | row entries => cases entries; simp
        · exact absurd bare (keepsFilters supplied none keyless).ne_empty
  · intro absent
    have untrue : given.isTrue = false := by
      simp only [List.mem_cons, List.not_mem_nil, or_false] at absent
      rcases absent with rfl | rfl | rfl | rfl <;> rfl
    rw [whereClause, listOf_eq_nil untrue]
    rfl

structure CarriesClause (d : Descriptor) (table : String) (given : Value) : Prop where
  select : ∀ useLabels, (d.sqlSelect useLabels given).outcome =
    (d.selectText useLabels table "" ++ ·) <$> d.whereClause given
  delete : (d.sqlDelete given).outcome = (d.deleteText table "" ++ ·) <$> d.whereClause given

theorem carriesClause (h : d.sqlName = .ok table) (given : Value) :
    d.CarriesClause table given where
  select := by
    intro useLabels
    cases clause : d.whereClause given with
    | ok text =>
      rw [sqlSelect_eq h clause, selectText, selectText, String.append_empty]
      rfl
    | error fault =>
      rw [sqlSelect, h, clause]
      rfl
  delete := by
    cases clause : d.whereClause given with
    | ok text =>
      rw [sqlDelete_eq h clause, deleteText, deleteText, String.append_empty]
      rfl
    | error fault =>
      rw [sqlDelete, h, clause]
      rfl

/-- Filters that are supplied are never lost, unless all that is supplied is one mapping without
keys; with null, an empty list and such a mapping a statement has no clause. -/
theorem supplied_filters_kept (d : Descriptor) (name : String) (named : d.tableName = .text name) :
    (∀ given fields, Supplies given fields → fields ≠ [] → given ≠ .record [] →
      d.KeepsFilters given fields) ∧
    (∀ given, IsArgument given → (d.whereClause given = .ok "" ↔
      given ∈ [.null, .list [], .row [], .record ([] : List (String × Value))])) ∧
    ∀ given, d.CarriesClause (Text.lower name) given :=
  ⟨fun _ _ => keepsFilters, fun _ => whereClause_eq_empty_iff, carriesClause (sqlName_eq named)⟩

def parcelTable : Descriptor where
  tableName := .text "Parcels"
  aliasName := "p"
  columns := [{ name := .text "id", primaryKey := .bool true }, { name := .text "weight" }]
  settings := {}

def parcelFilters : Value :=
  .list
    [.record [("column", .text "weight"), ("operator", .text "<"), ("value", .int 5)],
     .part .filter [("alias", .text "p_id"), ("operator", .text "is not")]]

theorem supplied_filters_kept_of_parcelTable :
    (parcelTable.sqlDelete parcelFilters).outcome =
        .ok "DELETE FROM parcels AS p WHERE p.weight < 5 AND p.id IS NOT NULL" ∧
      (parcelTable.sqlDelete (.list [.record []])).outcome = .error .filterWithoutColumn ∧
      (parcelTable.sqlDelete (.record [])).outcome = .ok "DELETE FROM parcels AS p" := by
  obtain ⟨kept, bare, carried⟩ := supplied_filters_kept parcelTable "Parcels" rfl
  have pair : parcelTable.KeepsFilters parcelFilters
      [[("column", .text "weight"), ("operator", .text "<"), ("value", .int 5)],
       [("alias", .text "p_id"), ("operator", .text "is not")]] :=
    kept _ _ (.list (.cons (.mapping _) (.cons (.built rfl) .nil))) (by simp)
      (by simp [parcelFilters])
  have nameless : parcelTable.KeepsFilters (.list [.record []]) [[]] :=
    kept _ _ (.list (.cons (.mapping _) .nil)) (by simp) (by simp)
  refine ⟨?_, ?_, ?_⟩
  · rw [(carried parcelFilters).delete, pair.rendered (by decide) ?_]
    · decide
    · intro r hr
      simp only [List.mem_cons, List.not_mem_nil, or_false] at hr
      rcases hr with rfl | rfl
      · exact ⟨.inl rfl, fun null => absurd null (by decide)⟩
      · exact ⟨.inr ⟨"p_id", rfl⟩, fun _ => ⟨"is not", rfl⟩⟩
  · rw [(carried _).delete, nameless.nameless ⟨[], by simp, by decide⟩]
    rfl
  · rw [(carried _).delete, (bare _ (.inr ⟨[[]], .one (.mapping [])⟩)).2 (by simp)]
    decide

/-- A mapping without keys names no column, and yet it is not refused: the statement is rendered for
all rows of the table. -/
theorem not_forall_keepsFilters :
    ¬ ∀ (d : Descriptor) (name : String) (given : Value) (fields : List Record),
      d.tableName = .text name → Supplies given fields → fields ≠ [] →
        d.KeepsFilters given fields := by
  intro kept
  have refused :=
    (kept parcelTable "Parcels" (.record []) [[]] rfl (.one (.mapping [])) (by simp)).nameless
    ⟨[], by simp, by decide⟩
  have bare : parcelTable.whereClause (.record []) = .ok "" := rfl
  exact absurd (bare.symm.trans refused) (by simp)

end Descriptor

end TableSchema
