import TableSchema.Proofs.Descriptor.MatchedColumns
import TableSchema.Proofs.Descriptor.UpdateWords
import TableSchema.Proofs.Validation.MissingKey
import TableSchema.Proofs.Verification.Verdict

/-!
What generation knows of a degenerate statement from the columns and the data, validation knows from
the columns and the verifier from the text alone.
-/

namespace TableSchema

open Text Verification

namespace Descriptor

variable {d : Descriptor} {data : Value}

theorem filter_isPrimary_eq_nil_iff (d : Descriptor) :
    d.columns.filter Column.isPrimary = [] ↔ d.LacksPrimaryKey := by
  rw [List.filter_eq_nil_iff]
  simp only [LacksPrimaryKey, Bool.not_eq_true]

theorem isNone_primaryColumn? (d : Descriptor) :
    d.primaryColumn?.isNone = decide d.LacksPrimaryKey := by
  rw [Bool.eq_iff_iff, Option.isNone_iff_eq_none, decide_eq_true_iff, primaryColumn?,
    List.find?_eq_none]
  simp only [LacksPrimaryKey, Bool.not_eq_true]

section Update

theorem isEmpty_assigned (d : Descriptor) (data : Value) :
    (d.assigned data).isEmpty = decide (d.AssignsNothing data) := by
  rw [Bool.eq_iff_iff, List.isEmpty_iff, decide_eq_true_iff, assigned, List.filter_eq_nil_iff]
  refine forall₂_congr fun c _ => ?_
  cases data.contains c.name <;> cases c.isPrimary <;> simp

theorem updateEvents_eq_flatMap (d : Descriptor) (data : Value) :
    d.updateEvents (d.assigned data) =
      (d.updateReasons data).flatMap fun r => d.degenerate r (d.warning r) := by
  rw [updateEvents, updateReasons, isEmpty_assigned, isNone_primaryColumn?, List.flatMap_append]
  congr 1
  · by_cases h : d.AssignsNothing data <;> simp [h, warning]
  · by_cases h : d.LacksPrimaryKey <;> simp [h, warning]

theorem toList_updateText_start (d : Descriptor) (table : String) (columns : List Column) :
    ∃ rest, (d.updateText table columns).toList = "UPDATE ".toList ++ rest := by
  unfold updateText
  simp only [String.toList_append, List.append_assoc]
  exact ⟨_, rfl⟩

theorem beginsWith_updateText (d : Descriptor) (table : String) (columns : List Column) :
    Verifier.beginsWith "DO " (d.updateText table columns) = false ∧
      Verifier.beginsWith "UPDATE" (d.updateText table columns) = true := by
  obtain ⟨rest, chars⟩ := toList_updateText_start d table columns
  have head : upperChars "UPDATE ".toList = "UPDATE ".toList := by decide
  unfold Verifier.beginsWith
  rw [chars, upperChars_append, head]
  exact ⟨rfl, rfl⟩

theorem updateText_ne_empty (d : Descriptor) (table : String) (columns : List Column) :
    d.updateText table columns ≠ "" := by
  intro empty
  have update := (beginsWith_updateText d table columns).2
  rw [empty] at update
  exact absurd update (by decide)

theorem strip_updateText (hd : d.HasPlainNames) (ha : IsIdentifier d.aliasName) (table : String)
    (columns : List Column) :
    strip (d.updateText table columns) = d.updateText table columns := by
  obtain ⟨rest, chars⟩ := toList_updateText_start d table columns
  have parameter := isIdentifier_keyParameter hd ha
  refine strip_eq_self ?_ ?_
  · rw [chars]
    exact (show isBlank 'U' = false by decide)
  · have nonempty : ((d.primaryKey? true).getD "null").toList ≠ [] :=
      ne_nil_of_isIdentifier parameter
    have mem : ((d.primaryKey? true).getD "null").toList.getLast nonempty ∈ d.keyParameter.toList :=
      List.getLast_mem nonempty
    unfold updateText
    rw [String.toList_append, List.getLast?_append, List.getLast?_eq_some_getLast nonempty]
    exact isBlank_of_identifierChar (identifierChar_of_mem parameter mem)

theorem updateProblems_updateText (hd : d.HasPlainNames) (ha : IsIdentifier d.aliasName)
    (other : lower d.aliasName ≠ "where") {table : String} (ht : IsIdentifier table)
    (data : Value) :
    updateProblems (d.updateText table (d.assigned data)).toList =
      (d.updateReasons data).map Degeneracy.problem := by
  have names : ∀ c ∈ d.assigned data, c.name.IsIdentifier := fun c hc =>
    hd.columns c (List.mem_filter.1 hc).1
  rw [updateProblems, hasEmptySet_updateText hd ha ht names other,
    hasNullKey_updateText hd ha ht names, isEmpty_assigned, isNone_primaryColumn?, updateReasons,
    List.map_append]
  congr 1
  · by_cases h : d.AssignsNothing data <;> simp [h, Degeneracy.problem]
  · by_cases h : d.LacksPrimaryKey <;> simp [h, Degeneracy.problem]

theorem updateAgrees (hd : d.HasPlainNames) (ha : IsIdentifier d.aliasName)
    (other : lower d.aliasName ≠ "where") (keys : data.IsKeySet) (v : Verifier) :
    ∃ sql, d.UpdateAgrees data v sql := by
  obtain ⟨table, sqlName, identifier⟩ := hd.sqlName_eq_ok
  have answer := sqlUpdate_eq sqlName (updateColumns_eq_ok hd.named keys)
  have problems := updateProblems_updateText hd ha other identifier data
  have valid := Validation.issues_outcome hd.named d.constraints
  obtain ⟨block, update⟩ := beginsWith_updateText d table (d.assigned data)
  have nonempty := updateText_ne_empty d table (d.assigned data)
  obtain ⟨rejected, parsed⟩ := Verifier.judge_update v nonempty block update
  rw [← Validation.validate_outcome d.settings] at valid
  refine ⟨d.updateText table (d.assigned data), ?_, ?_, problems, ?_, ?_, ?_⟩
  · rw [answer]
  · refine reports_of_events ?_
      (isSilent_generated d .update (d.updateText table (d.assigned data)))
    rw [answer, updateEvents_eq_flatMap]
  · exact valid.1
  · intro issues found
    rw [valid.2 issues found, filter_isPrimary_eq_nil_iff]
  · refine ⟨_, Verifier.verify_text_outcome v _, ?_, ?_⟩
    · intro sound
      rw [strip_updateText hd ha]
      exact ⟨_, parsed (by rw [problems, sound]; rfl)⟩
    · intro degenerate
      rw [strip_updateText hd ha, ← problems]
      have shown : updateProblems (d.updateText table (d.assigned data)).toList ≠ [] := by
        rwa [problems, Ne, List.map_eq_nil_iff]
      exact (rejected shown).symm

end Update

section Insert

theorem inserted_eq_nil_iff (d : Descriptor) (data : Value) :
    d.inserted data = [] ↔ d.InsertsNothing data := by
  rw [inserted, List.filter_eq_nil_iff]
  simp only [InsertsNothing, insertKey, Bool.not_eq_true]

theorem strip_insertText (d : Descriptor) (table : String) (columns : List Column) :
    strip (d.insertText table columns) = d.insertText table columns := by
  unfold insertText
  refine strip_eq_self ?_ ?_
  · simp only [String.toList_append, List.append_assoc]
    exact (show isBlank 'I' = false by decide)
  · rw [String.toList_append, List.getLast?_append]
    exact (show isBlank ')' = false by decide)

theorem insertText_ne_empty (d : Descriptor) (table : String) (columns : List Column) :
    d.insertText table columns ≠ "" := by
  intro empty
  have chars := congrArg String.toList empty
  unfold insertText at chars
  simp only [String.toList_append, List.append_assoc] at chars
  exact absurd chars (List.cons_ne_nil _ _)

theorem insertAgrees (hd : d.HasPlainNames) (keys : data.IsKeySet) (v : Verifier) :
    ∃ sql, d.InsertAgrees data v sql := by
  obtain ⟨table, sqlName, -⟩ := hd.sqlName_eq_ok
  have columns := insertColumns_eq_ok (d := d) keys
  by_cases nothing : d.InsertsNothing data
  · rw [(inserted_eq_nil_iff d data).2 nothing] at columns
    have answer := sqlInsert_eq_empty columns
    refine ⟨"", by rw [answer], iff_of_true rfl nothing, ?_, ?_⟩
    · refine reports_of_events ?_ isSilent_nil
      rw [answer, insertReasons, if_pos nothing]
      simp [warning]
    · exact ⟨_, Verifier.verify_text_outcome v "",
        iff_of_true ⟨_, Verifier.judge_empty_rejection v, rfl⟩ nothing⟩
  · have present : d.inserted data ≠ [] := fun none =>
      nothing ((inserted_eq_nil_iff d data).1 none)
    have answer := sqlInsert_eq sqlName columns present
    have nonempty := insertText_ne_empty d table (d.inserted data)
    refine ⟨d.insertText table (d.inserted data), by rw [answer], iff_of_false nonempty nothing,
      ?_, ?_⟩
    · refine reports_of_events ?_
        (isSilent_generated d .insert (d.insertText table (d.inserted data)))
      rw [answer, insertReasons, if_neg nothing]
      rfl
    · refine ⟨_, Verifier.verify_text_outcome v _, iff_of_false ?_ nothing⟩
      rw [strip_insertText]
      rintro ⟨r, rejected, code⟩
      exact Verifier.code_judge v nonempty rejected code

end Insert

/-- Generator, validator and verifier agree on what is degenerate, whatever identifiers the table
and its columns are called, whatever the data hold and whatever the parser answers. -/
theorem degenerate_statements_agree (d : Descriptor) (hd : d.HasPlainNames)
    (ha : IsIdentifier d.aliasName) (other : lower d.aliasName ≠ "where") (data : Value)
    (keys : data.IsKeySet) (v : Verifier) :
    (∃ sql, d.UpdateAgrees data v sql) ∧ ∃ sql, d.InsertAgrees data v sql :=
  ⟨updateAgrees hd ha other keys v, insertAgrees hd keys v⟩

def keywordTable : Descriptor where
  tableName := .text "WHERE"
  aliasName := "set"
  columns := [{ name := .text "where" }, { name := .text "set" }, { name := .text "null" }]
  settings := {}

theorem degenerate_statements_agree_of_keywordTable :
    (∃ sql, (keywordTable.sqlUpdate (.record [("where", .int 1)])).outcome = .ok sql ∧
      updateProblems sql.toList = [.missingPrimaryKey]) ∧
    (keywordTable.sqlInsert (.record [("where", .int 1)])).outcome = .ok "" := by
  obtain ⟨⟨sql, update⟩, other, insert⟩ :=
    degenerate_statements_agree keywordTable (by decide) (by decide) (by decide)
      (.record [("where", .int 1)]) (Value.isKeySet_record _) ⟨fun _ => .trees [], .text "postgres"⟩
  refine ⟨⟨sql, update.generated, update.recognized.trans (by decide)⟩, ?_⟩
  have nothing : other = "" := insert.empty.2 (by decide)
  rw [insert.generated, nothing]

end Descriptor

end TableSchema
