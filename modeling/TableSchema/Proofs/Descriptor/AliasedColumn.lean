import TableSchema.Proofs.Descriptor.ClauseComposition

/-!
Columns named through their alias. The prefix of an alias is taken off once, so that whatever name
stands behind it is found again, and a filter asks the same whether it names its column directly or
in this way.
-/

namespace TableSchema

theorem mapM_eq_of_map_eq {α β : Type} {run : α → Except Fault β} {xs ys : List α}
    (h : xs.map run = ys.map run) : xs.mapM run = ys.mapM run := by
  have whole (zs : List α) : zs.mapM run = (zs.map run).mapM id := by
    rw [List.mapM_map]
    rfl
  rw [whole xs, whole ys, h]

namespace Descriptor

open TableSchema.Filter

variable {d : Descriptor} {x y : Value} {f g : Filter} {xs ys : List Value} {given given' : Value}

theorem aliasToColumnName_prefixed (d : Descriptor) (name : String) :
    d.aliasToColumnName (d.prefixed name) = name := by
  have whole : (d.prefixed name).toList = (d.prefixed "").toList ++ name.toList := by
    simp only [prefixed, String.append_empty, String.toList_append]
  have found : (d.prefixed "").toList.isPrefixOf? (d.prefixed name).toList = some name.toList :=
    List.isPrefixOf?_eq_some_iff_append_eq.2 whole.symm
  rw [aliasToColumnName, found]
  exact String.ofList_toList

theorem columnAliases_map_aliasToColumnName (named : ∀ c ∈ d.columns, ∃ s, c.name = .text s)
    (withPrimary : Bool) :
    (d.columnAliases withPrimary).map (fun s => Value.text (d.aliasToColumnName s)) =
      (d.selected withPrimary).map Column.name := by
  rw [columnAliases, List.map_map]
  refine List.map_congr_left fun c hc => ?_
  obtain ⟨s, text⟩ := named c (List.mem_of_mem_filter hc)
  rw [Function.comp_apply, aliasToColumnName_prefixed, text]
  rfl

/-- The second filter names through the alias the column that the first names directly, and asks the
same of it. What it holds for a column besides does not count. -/
structure NamesByAlias (d : Descriptor) (f g : Filter) : Prop where
  direct : f.aliasName = .null
  aliased : ∃ name, f.column = .text name ∧ g.aliasName = .text (d.prefixed name)
  operator : g.operator = f.operator
  value : g.value = f.value

theorem NamesByAlias.condition_eq (h : d.NamesByAlias f g) : d.condition f = d.condition g := by
  obtain ⟨name, column, aliased⟩ := h.aliased
  have first : d.filterColumn f = .ok (d.reference name) := by
    rw [filterColumn, h.direct, column]
    rfl
  have second : d.filterColumn g = .ok (d.reference name) := by
    rw [filterColumn, aliased]
    change Except.ok (d.reference (d.aliasToColumnName (d.prefixed name))) = _
    rw [aliasToColumnName_prefixed]
  have test : filterTest f = filterTest g := by
    rw [filterTest, filterTest, comparison, comparison, h.operator, h.value]
  rw [condition, condition, first, second, test]

/-- The entry is kept, or a filter that names its column through the alias takes its place. -/
inductive Renames (d : Descriptor) : Value → Value → Prop
  | kept (x : Value) : Renames d x x
  | replaced {x y : Value} {f g : Filter} (read : Filter.ofValue x = .ok f)
      (reread : Filter.ofValue y = .ok g) (same : d.NamesByAlias f g) : Renames d x y

inductive RenamesAll (d : Descriptor) : Value → Value → Prop
  | one {x y : Value} (entry : Renames d x y) : RenamesAll d x y
  | list {xs ys : List Value} (entries : List.Forall₂ (Renames d) xs ys) :
      RenamesAll d (.list xs) (.list ys)

inductive ReadsAlike (d : Descriptor) :
    Except Fault (List Filter) → Except Fault (List Filter) → Prop
  | fault (fault : Fault) : ReadsAlike d (.error fault) (.error fault)
  | filters {fs gs : List Filter} (same : fs.map d.condition = gs.map d.condition) :
      ReadsAlike d (.ok fs) (.ok gs)

theorem readsAlike_mapM (h : List.Forall₂ (Renames d) xs ys) :
    d.ReadsAlike (xs.mapM Filter.ofValue) (ys.mapM Filter.ofValue) := by
  induction h with
  | nil => exact .filters rfl
  | @cons x y xs ys here _ ih =>
    rw [List.mapM_cons, List.mapM_cons]
    generalize xs.mapM Filter.ofValue = first at ih ⊢
    generalize ys.mapM Filter.ofValue = second at ih ⊢
    cases here with
    | kept =>
      cases Filter.ofValue x with
      | error fault => exact .fault fault
      | ok f =>
        cases ih with
        | fault fault => exact .fault fault
        | filters same => exact .filters (congrArg (d.condition f :: ·) same)
    | replaced read reread named =>
      rw [read, reread]
      cases ih with
      | fault fault => exact .fault fault
      | filters same => exact .filters (congrArg₂ List.cons named.condition_eq same)

theorem whereClause_eq_of_readsAlike
    (h : d.ReadsAlike (Filter.listOf given) (Filter.listOf given')) :
    d.whereClause given = d.whereClause given' := by
  unfold whereClause
  generalize Filter.listOf given = first at h ⊢
  generalize Filter.listOf given' = second at h ⊢
  cases h with
  | fault => rfl
  | @filters fs gs same =>
    change (fs.mapM d.condition >>= _) = (gs.mapM d.condition >>= _)
    rw [mapM_eq_of_map_eq same]

theorem RenamesAll.whereClause_eq (h : d.RenamesAll given given') :
    d.whereClause given = d.whereClause given' := by
  cases h with
  | one entry =>
    cases entry with
    | kept => rfl
    | replaced read reread named =>
      rw [whereClause_one read, whereClause_one reread, List.mapM_cons, List.mapM_cons,
        named.condition_eq]
  | @list xs ys entries =>
    apply whereClause_eq_of_readsAlike
    cases entries with
    | nil => exact .filters rfl
    | cons here later =>
      rw [listOf_list (List.cons_ne_nil _ _), listOf_list (List.cons_ne_nil _ _)]
      exact readsAlike_mapM (.cons here later)

theorem answer_eq_of_whereClause_eq (h : d.whereClause given = d.whereClause given') :
    d.answer (.whereClause given) = d.answer (.whereClause given') ∧
      (∀ useLabels, d.answer (.select useLabels given) = d.answer (.select useLabels given')) ∧
      d.answer (.delete given) = d.answer (.delete given') := by
  refine ⟨?_, fun useLabels => ?_, ?_⟩
  · rw [answer, answer, h]
  · rw [answer, answer, sqlSelect, sqlSelect, h]
  · rw [answer, answer, sqlDelete, sqlDelete, h]

theorem renames_toValue (read : Filter.ofValue x = .ok f) (direct : f.aliasName = .null)
    {name : String} (text : f.column = .text name) (column : Value) :
    let g := { f with column := column, aliasName := .text (d.prefixed name) }
    d.Renames x (.record g.toRecord) ∧ d.Renames x g.toValue := by
  intro g
  have reread : checked g = .ok g := (checked_eq_ok_iff g g).2 ⟨rfl, .inr rfl⟩
  have same : d.NamesByAlias f g := ⟨direct, ⟨name, text, rfl⟩, rfl, rfl⟩
  constructor
  · exact .replaced read ((ofRecord_toRecord g).trans reread) same
  · exact .replaced read ((ofValue_toValue_eq g).trans reread) same

structure IdentifiesAliases (d : Descriptor) : Prop where
  names : ∀ withPrimary,
    (d.columnAliases withPrimary).map (fun s => Value.text (d.aliasToColumnName s)) =
      (d.columns.filter fun c => withPrimary || !c.isPrimary).map Column.name
  /-- Every answer is kept, with its events and if it is a fault. -/
  answers : ∀ given given', d.RenamesAll given given' →
    d.answer (.whereClause given) = d.answer (.whereClause given') ∧
      (∀ useLabels, d.answer (.select useLabels given) = d.answer (.select useLabels given')) ∧
      d.answer (.delete given) = d.answer (.delete given')
  replaceable : ∀ x f name column, Filter.ofValue x = .ok f → f.aliasName = .null →
    f.column = .text name →
      let g := { f with column := column, aliasName := .text (d.prefixed name) }
      d.Renames x (.record g.toRecord) ∧ d.Renames x g.toValue

theorem identifiesAliases (d : Descriptor) (named : ∀ c ∈ d.columns, ∃ s, c.name = .text s) :
    d.IdentifiesAliases where
  names := columnAliases_map_aliasToColumnName named
  answers _ _ h := answer_eq_of_whereClause_eq h.whereClause_eq
  replaceable _ _ _ column read direct text := renames_toValue read direct text column

def nestedTable : Descriptor where
  tableName := .text "Nested"
  aliasName := "n_é"
  columns := [{ name := .text "id", primaryKey := .bool true }, { name := .text "n_é_id" }]
  settings := {}

theorem nestedTable_named : ∀ c ∈ nestedTable.columns, ∃ s, c.name = .text s := by
  intro c hc
  simp only [nestedTable, List.mem_cons, List.not_mem_nil, or_false] at hc
  rcases hc with rfl | rfl
  · exact ⟨"id", rfl⟩
  · exact ⟨"n_é_id", rfl⟩

theorem identifiesAliases_of_nestedTable :
    (nestedTable.columnAliases true).map
        (fun s => Value.text (nestedTable.aliasToColumnName s)) = [.text "id", .text "n_é_id"] ∧
      (nestedTable.answer (.delete (.list
          [.record [("column", .text "id"), ("alias", .text "n_é_n_é_id"), ("value", .int 1)],
           .record [("column", .text "id")]]))).outcome =
        .ok (.text "DELETE FROM nested AS n_é WHERE n_é.n_é_id = 1 AND n_é.id IS NULL") := by
  have identifies := identifiesAliases nestedTable nestedTable_named
  refine ⟨identifies.names true, ?_⟩
  have renamed : nestedTable.Renames (.record [("column", .text "n_é_id"), ("value", .int 1)])
      (.record [("column", .text "id"), ("alias", .text "n_é_n_é_id"), ("value", .int 1)]) :=
    .replaced rfl rfl ⟨rfl, ⟨"n_é_id", rfl, by decide⟩, rfl, rfl⟩
  have other : nestedTable.Renames (.record [("column", .text "id")])
      (.record [("column", .text "id")]) := .kept _
  have answers := identifies.answers _ _ (.list (.cons renamed (.cons other .nil)))
  rw [← answers.2.2]
  rfl

end Descriptor

end TableSchema
