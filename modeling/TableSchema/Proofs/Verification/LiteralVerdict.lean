import TableSchema.Proofs.Descriptor.ShownFilter

/-!
The verdict on selections and deletions with filters. What the parser is shown is the statement
itself, and no placeholder is noted, unless a text that a filter compares with looks as if it held
one.
-/

namespace TableSchema

open Text Verification

namespace Verification.Verifier

variable {v : Verifier} {sql shown : String} {names : List String}

/-- The verifier shows its parser a text, once, and notes the names of placeholders. -/
def Hands (v : Verifier) (sql shown : String) (names : List String) : Prop :=
  ∃ verdict, (v.verify (.text sql)).outcome = .ok verdict ∧
    verdict.parserCalls = [⟨shown, v.dialect⟩] ∧ verdict.notes.placeholders = some names

def IsRowQuery (sql : String) : Prop :=
  ∃ word ∈ ["DELETE FROM ", "SELECT "], ∃ rest, sql = word ++ rest

theorem IsRowQuery.facts (query : IsRowQuery sql) :
    sql.toList.head?.any isBlank = false ∧ beginsWith "DO " sql = false ∧
      beginsWith "UPDATE" sql = false ∧ dropKeyword? "INSERT".toList sql.toList = none := by
  obtain ⟨word, mem, rest, rfl⟩ := query
  unfold beginsWith
  rw [String.toList_append, upperChars_append]
  simp only [List.mem_cons, List.not_mem_nil, or_false] at mem
  rcases mem with rfl | rfl
  · have head : upperChars "DELETE FROM ".toList = "DELETE FROM ".toList := by decide
    rw [head]
    exact ⟨by rfl, rfl, rfl, rfl⟩
  · have head : upperChars "SELECT ".toList = "SELECT ".toList := by decide
    rw [head]
    exact ⟨by rfl, rfl, rfl, rfl⟩

theorem hands_of_masks (masks : Masks sql shown names) (query : IsRowQuery sql)
    (query' : IsRowQuery shown) (solid : EndsSolid sql) (v : Verifier) :
    v.Hands sql shown names := by
  obtain ⟨first, block, update, -⟩ := query.facts
  have nonempty : sql ≠ "" := by
    rintro rfl
    obtain ⟨c, last, -⟩ := solid
    exact absurd last (by simp)
  have text : parserText sql = shown := by
    rw [parserText, masks.mask_eq]
    exact unqualify_eq_self query'.facts.2.2.2
  obtain ⟨call, noted⟩ := judge_parsed v nonempty block
    fun other => absurd (update.symm.trans other) (by decide)
  refine ⟨_, verify_text_outcome v sql, ?_⟩
  rw [solid.strip_eq first, call, noted, text, masks.placeholders_eq]
  exact ⟨rfl, rfl⟩

theorem Hands.unchanged_iff (masks : Masks sql shown names) (hands : v.Hands sql shown names) :
    v.Hands sql sql [] ↔ names = [] := by
  obtain ⟨verdict, answer, calls, noted⟩ := hands
  constructor
  · rintro ⟨verdict', answer', -, noted'⟩
    obtain rfl := Except.ok.inj (answer.symm.trans answer')
    exact Option.some.inj (noted.symm.trans noted')
  · rintro rfl
    have same : shown = sql := masks.mask_eq.symm.trans (mask_eq_self masks.placeholders_eq)
    exact ⟨verdict, answer, same ▸ calls, noted⟩

end Verification.Verifier

namespace Descriptor

variable {d : Descriptor} {fs : List Filter} {table : String} {given : Value}

structure ShowsFilters (d : Descriptor) (fs : List Filter) (v : Verifier)
    (outcome : Except Fault String) (statement : String → String) : Prop where
  rendered : outcome = .ok (statement (d.clauseText fs))
  /-- The parser is shown the statement that has each text of a filter masked. -/
  handed : v.Hands (statement (d.clauseText fs)) (statement (d.clauseText (fs.map Filter.shown)))
    (fs.flatMap Filter.marks)
  unchanged : v.Hands (statement (d.clauseText fs)) (statement (d.clauseText fs)) [] ↔
    ∀ f ∈ fs, ∀ s, f.value = .text s → ¬ HoldsMark s

theorem showsFilters_of_masks {outcome : Except Fault String} {statement : String → String}
    (rendered : outcome = .ok (statement (d.clauseText fs)))
    (masks : Masks (statement (d.clauseText fs)) (statement (d.clauseText (fs.map Filter.shown)))
      (fs.flatMap Filter.marks))
    (query : ∀ clause, Verifier.IsRowQuery (statement clause))
    (solid : EndsSolid (statement (d.clauseText fs))) (v : Verifier) :
    d.ShowsFilters fs v outcome statement := by
  have handed := Verifier.hands_of_masks masks (query _) (query _) solid v
  refine ⟨rendered, handed, ?_⟩
  rw [handed.unchanged_iff masks, List.flatMap_eq_nil_iff]
  exact forall₂_congr fun f _ => f.marks_eq_nil_iff

theorem isRowQuery_deleteText (d : Descriptor) (table clause : String) :
    Verifier.IsRowQuery (d.deleteText table clause) := by
  refine ⟨"DELETE FROM ", by decide, table ++ " AS " ++ d.aliasName ++ clause, ?_⟩
  unfold deleteText
  simp only [String.append_assoc]

theorem isRowQuery_selectText (d : Descriptor) (useLabels : Bool) (table clause : String) :
    Verifier.IsRowQuery (d.selectText useLabels table clause) := by
  refine ⟨"SELECT ", by decide, ", ".intercalate (d.columnFields true useLabels) ++ " FROM " ++
    table ++ " AS " ++ d.aliasName ++ clause, ?_⟩
  unfold selectText
  simp only [String.append_assoc]

/-- Selections and deletions with plain filters are always rendered and always handed to the parser,
which is shown them as they are exactly if no text of a filter looks as if it held a placeholder. -/
theorem shows_filters (d : Descriptor) (hd : d.HasPlainNames) (ha : IsIdentifier d.aliasName)
    (noEnums : ∀ c ∈ d.columns, c.enumValues = none) (given : Value) (fs : List Filter)
    (read : Filter.listOf given = .ok fs) (plain : ∀ f ∈ fs, f.IsPlain) (v : Verifier) :
    ∃ table, d.sqlName = .ok table ∧
      d.ShowsFilters fs v (d.sqlDelete given).outcome (d.deleteText table) ∧
      ∀ useLabels, d.ShowsFilters fs v (d.sqlSelect useLabels given).outcome
        (d.selectText useLabels table) := by
  obtain ⟨table, sqlName, identifier⟩ := hd.sqlName_eq_ok
  have clause := whereClause_eq_ok (d := d) read plain
  have solid (head : String) : EndsSolid (head ++ d.aliasName ++ d.clauseText fs) := by
    rw [String.append_assoc]
    exact (endsSolid_clauseText ha plain).append head
  refine ⟨table, sqlName, ?_, fun useLabels => ?_⟩
  · exact showsFilters_of_masks (by rw [sqlDelete_eq sqlName clause])
      (masks_deleteText identifier ha plain) (isRowQuery_deleteText d table) (solid _) v
  · exact showsFilters_of_masks (by rw [sqlSelect_eq sqlName clause])
      (masks_selectText hd identifier ha noEnums plain useLabels)
      (isRowQuery_selectText d useLabels table) (solid _) v

def invoiceTable : Descriptor where
  tableName := .text "Invoices"
  aliasName := "i"
  columns := [{ name := .text "id", primaryKey := .bool true }, { name := .text "note" }]
  settings := {}

theorem isPlain_noteFilter (s : String) :
    Filter.IsPlain { column := .text "note", value := .text s } where
  column := .inl ⟨rfl, "note", rfl, by decide⟩
  operator := ⟨"=", rfl, by decide⟩
  value := .inr rfl

def noteFilter (s : String) : Value :=
  .record [("column", .text "note"), ("value", .text s)]

theorem listOf_noteFilter (s : String) :
    Filter.listOf (noteFilter s) = .ok [{ column := .text "note", value := .text s }] := rfl

theorem shows_filters_of_noteFilter :
    (invoiceTable.sqlDelete (noteFilter "5$ or $5, it's $$x")).outcome =
        .ok "DELETE FROM invoices AS i WHERE i.note = '5$ or $5, it''s $$x'" ∧
      Verifier.unreading.Hands
        "DELETE FROM invoices AS i WHERE i.note = '5$ or $5, it''s $$x'"
        "DELETE FROM invoices AS i WHERE i.note = '5$ or $5, it''s $$x'" [] := by
  have plain : ∀ f ∈ [({ column := .text "note", value := .text "5$ or $5, it's $$x" } : Filter)],
      f.IsPlain := by
    simpa using isPlain_noteFilter "5$ or $5, it's $$x"
  obtain ⟨table, sqlName, shown, -⟩ := shows_filters invoiceTable (by decide)
    (by decide) (by decide) _ _ (listOf_noteFilter "5$ or $5, it's $$x") plain .unreading
  have lowered : invoiceTable.sqlName = .ok "invoices" := rfl
  obtain rfl := Except.ok.inj (sqlName.symm.trans lowered)
  refine ⟨shown.rendered, shown.unchanged.2 ?_⟩
  intro f hf s text
  obtain rfl := List.mem_singleton.1 hf
  obtain rfl := Value.text.inj text
  exact (placeholders_eq_nil_iff _).1 (by decide)

/-- The text of a literal may look like a placeholder. -/
theorem not_forall_hands_unchanged :
    ¬ ∀ (d : Descriptor) (given : Value) (fs : List Filter) (v : Verifier),
      d.HasPlainNames → IsIdentifier d.aliasName → (∀ c ∈ d.columns, c.enumValues = none) →
      Filter.listOf given = .ok fs → (∀ f ∈ fs, f.IsPlain) →
        ∃ sql, (d.sqlDelete given).outcome = .ok sql ∧ v.Hands sql sql [] := by
  intro h
  obtain ⟨sql, rendered, verdict, answer, -, noted⟩ := h invoiceTable (noteFilter "$x") _
    .unreading (by decide) (by decide) (by decide)
    (listOf_noteFilter "$x") (by simpa using isPlain_noteFilter "$x")
  have text : (invoiceTable.sqlDelete (noteFilter "$x")).outcome =
      .ok "DELETE FROM invoices AS i WHERE i.note = '$x'" := rfl
  obtain rfl := Except.ok.inj (rendered.symm.trans text)
  rw [Verifier.verify_text_outcome] at answer
  obtain rfl := Except.ok.inj answer
  exact absurd noted (by decide)

end Descriptor

end TableSchema
