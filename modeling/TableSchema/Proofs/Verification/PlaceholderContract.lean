import TableSchema.Proofs.Descriptor.ShownStatement
import TableSchema.Proofs.Verification.Agreement

/-!
The placeholders of generated inserts and updates. Of the columns that the data match, each stands
next to its own parameter in what a parser is shown, and the same parameters are noted, in the order
of the columns and not of the data.
-/

namespace TableSchema.Descriptor

open Text Verification

variable {d : Descriptor} {data : Value} {table : String}

section Contract

/-- The names of the columns, in the order of their declaration, whose alias is among the data. -/
def insertedNames (d : Descriptor) (data : Value) : List String :=
  ((d.columns.zip (d.columnAliases true)).filter fun p => data.contains (.text p.2)).map
    fun p => p.1.name.display

theorem insertedNames_eq (d : Descriptor) (data : Value) :
    d.insertedNames data = (d.inserted data).map fun c => c.name.display := by
  have all : d.selected true = d.columns := List.filter_eq_self.2 fun _ _ => rfl
  unfold insertedNames columnAliases inserted
  rw [all]
  generalize d.columns = columns
  induction columns with
  | nil => rfl
  | cons c columns ih =>
    by_cases held : data.contains (.text (d.prefixed c.name.display)) = true
    · simpa [insertKey, held] using ih
    · simpa [insertKey, held] using ih

structure InsertContract (d : Descriptor) (data : Value) (v : Verifier) (table sql : String) :
    Prop where
  generated : (d.sqlInsert data).outcome = .ok sql
  shown : sql ≠ "" → ∃ verdict, (v.verify (.text sql)).outcome = .ok verdict ∧
    verdict.parserCalls = [⟨d.shownInsert (d.insertedNames data) table, v.dialect⟩] ∧
    verdict.notes.placeholders = some ((d.insertedNames data).map d.prefixed)

structure UpdateContract (d : Descriptor) (data : Value) (v : Verifier) (sql : String) :
    Prop where
  generated : (d.sqlUpdate data).outcome = .ok sql
  shown : d.updateReasons data = [] →
    ∃ verdict, (v.verify (.text sql)).outcome = .ok verdict ∧
      verdict.parserCalls = [⟨colons sql, v.dialect⟩] ∧
      verdict.notes.placeholders =
        some ((d.assigned data).map (fun c => d.prefixed c.name.display) ++
          (d.primaryKey? true).toList)

theorem beginsWith_insertText (d : Descriptor) (table : String) (columns : List Column) :
    Verifier.beginsWith "DO " (d.insertText table columns) = false ∧
      Verifier.beginsWith "UPDATE" (d.insertText table columns) = false := by
  have head : upperChars "INSERT INTO ".toList = "INSERT INTO ".toList := by decide
  unfold Verifier.beginsWith insertText
  simp only [String.toList_append, List.append_assoc, upperChars_append, head]
  exact ⟨rfl, rfl⟩

theorem insertContract (hd : d.HasPlainNames) (ha : IsIdentifier d.aliasName)
    (keys : data.IsKeySet) (v : Verifier) (sqlName : d.sqlName = .ok table)
    (ht : IsIdentifier table) : ∃ sql, d.InsertContract data v table sql := by
  have columns := insertColumns_eq_ok (d := d) keys
  by_cases nothing : d.inserted data = []
  · rw [nothing] at columns
    exact ⟨"", by rw [sqlInsert_eq_empty columns], fun some => absurd rfl some⟩
  · have names : ∀ n ∈ d.insertedNames data, IsIdentifier n := by
      rw [insertedNames_eq]
      exact hd.isIdentifier_display _
    have text := insertText_eq_namedInsert d table (d.inserted data)
    rw [← insertedNames_eq] at text
    refine ⟨d.insertText table (d.inserted data), by rw [sqlInsert_eq sqlName columns nothing],
      fun nonempty => ⟨_, Verifier.verify_text_outcome v _, ?_⟩⟩
    obtain ⟨block, other⟩ := beginsWith_insertText d table (d.inserted data)
    obtain ⟨call, noted⟩ := Verifier.judge_parsed v nonempty block
      fun update => absurd (other.symm.trans update) (by decide)
    rw [strip_insertText, call, noted, text, parserText_namedInsert ht ha names,
      (shows_namedInsert ht ha names).placeholders_eq]
    exact ⟨rfl, rfl⟩

theorem updateContract (hd : d.HasPlainNames) (ha : IsIdentifier d.aliasName)
    (other : lower d.aliasName ≠ "where") (keys : data.IsKeySet) (v : Verifier)
    (sqlName : d.sqlName = .ok table) (ht : IsIdentifier table) :
    ∃ sql, d.UpdateContract data v sql := by
  refine ⟨d.updateText table (d.assigned data),
    by rw [sqlUpdate_eq sqlName (updateColumns_eq_ok hd.named keys)],
    fun sound => ⟨_, Verifier.verify_text_outcome v _, ?_⟩⟩
  have names : ∀ n ∈ (d.assigned data).map (fun c => c.name.display), IsIdentifier n :=
    hd.isIdentifier_display _
  obtain ⟨c, key⟩ : ∃ c, d.primaryColumn? = some c := by
    have held : ¬ d.LacksPrimaryKey := by
      intro lacks
      simp [updateReasons, lacks] at sound
    rw [← Option.isSome_iff_exists, ← Option.not_isNone, isNone_primaryColumn?]
    simp [held]
  have identifier := name_of_primaryColumn? hd key
  have text := updateText_eq_namedUpdate d table (d.assigned data)
  rw [key, Option.map_some] at text
  have problems := updateProblems_updateText hd ha other ht data
  rw [sound] at problems
  obtain ⟨call, noted⟩ := Verifier.judge_parsed v
    (updateText_ne_empty d table (d.assigned data))
    (beginsWith_updateText d table (d.assigned data)).1 fun _ => problems
  have parameter : (d.primaryKey? true).toList = [d.prefixed c.name.display] := by
    rw [primaryKey?, key]
    rfl
  rw [strip_updateText hd ha, call, noted, text, parserText_namedUpdate ht ha names identifier,
    (shows_namedUpdate ht ha names identifier).placeholders_eq, List.map_map, parameter]
  exact ⟨rfl, rfl⟩

end Contract

section Independence

variable {data' : Value}

theorem sqlInsert_congr (keys : data.IsKeySet) (keys' : data'.IsKeySet)
    (same : ∀ c ∈ d.columns, data'.contains (d.insertKey c) = data.contains (d.insertKey c)) :
    d.sqlInsert data' = d.sqlInsert data := by
  have columns : d.inserted data' = d.inserted data := List.filter_congr same
  unfold sqlInsert
  rw [insertColumns_eq_ok keys, insertColumns_eq_ok keys', columns]

theorem sqlUpdate_congr (hd : d.HasPlainNames) (keys : data.IsKeySet) (keys' : data'.IsKeySet)
    (same : ∀ c ∈ d.columns, data'.contains c.name = data.contains c.name) :
    d.sqlUpdate data' = d.sqlUpdate data := by
  have columns : d.assigned data' = d.assigned data :=
    List.filter_congr fun c hc => by rw [same c hc]
  unfold sqlUpdate
  rw [updateColumns_eq_ok hd.named keys, updateColumns_eq_ok hd.named keys', columns]

theorem contains_record_iff (entries : Record) (key : String) :
    (Value.record entries).contains (.text key) = true ↔ ∃ e ∈ entries, e.1 = key := by
  rw [Value.contains_record_text, Record.get?, List.lookup_isSome_iff]
  exact exists_congr fun e => and_congr_right fun _ => by rw [beq_iff_eq, eq_comm]

theorem contains_shuffled {entries extra shuffled : Record}
    (perm : shuffled.Perm (entries ++ extra)) {key : String} (absent : ∀ e ∈ extra, e.1 ≠ key) :
    (Value.record shuffled).contains (.text key) = (Value.record entries).contains (.text key) := by
  rw [Bool.eq_iff_iff, contains_record_iff, contains_record_iff]
  constructor
  · rintro ⟨e, mem, same⟩
    rcases List.mem_append.1 (perm.mem_iff.1 mem) with mem | mem
    · exact ⟨e, mem, same⟩
    · exact absurd same (absent e mem)
  · rintro ⟨e, mem, same⟩
    exact ⟨e, perm.mem_iff.2 (List.mem_append_left extra mem), same⟩

/-- Data that hold the same of the keys that a statement asks for give the same statement, and so do
the entries of a record in any order, with others among them that belong to no column. -/
structure IsIndependent (d : Descriptor) (data : Value) : Prop where
  insert : ∀ data' : Value, data'.IsKeySet →
    (∀ c ∈ d.columns, data'.contains (d.insertKey c) = data.contains (d.insertKey c)) →
    d.sqlInsert data' = d.sqlInsert data
  update : ∀ data' : Value, data'.IsKeySet →
    (∀ c ∈ d.columns, data'.contains c.name = data.contains c.name) →
    d.sqlUpdate data' = d.sqlUpdate data
  insertEntries : ∀ entries extra shuffled : Record, data = .record entries →
    shuffled.Perm (entries ++ extra) →
    (∀ e ∈ extra, ∀ c ∈ d.columns, e.1 ≠ d.prefixed c.name.display) →
    d.sqlInsert (.record shuffled) = d.sqlInsert data
  updateEntries : ∀ entries extra shuffled : Record, data = .record entries →
    shuffled.Perm (entries ++ extra) →
    (∀ e ∈ extra, ∀ c ∈ d.columns, e.1 ≠ c.name.display) →
    d.sqlUpdate (.record shuffled) = d.sqlUpdate data

theorem isIndependent (hd : d.HasPlainNames) (keys : data.IsKeySet) : d.IsIndependent data where
  insert _ keys' same := sqlInsert_congr keys keys' same
  update _ keys' same := sqlUpdate_congr hd keys keys' same
  insertEntries entries extra shuffled given perm absent := by
    subst given
    exact sqlInsert_congr keys (Value.isKeySet_record shuffled) fun c hc =>
      contains_shuffled perm fun e he => absent e he c hc
  updateEntries entries extra shuffled given perm absent := by
    subst given
    refine sqlUpdate_congr hd keys (Value.isKeySet_record shuffled) fun c hc => ?_
    rw [name_eq_text_display hd.named hc]
    exact contains_shuffled perm fun e he => absent e he c hc

end Independence

/-- The parser is shown every column that the data match next to its own parameter, and no more. -/
theorem placeholder_contract (d : Descriptor) (hd : d.HasPlainNames)
    (ha : IsIdentifier d.aliasName) (other : lower d.aliasName ≠ "where") (data : Value)
    (keys : data.IsKeySet) (v : Verifier) :
    (∃ table, d.sqlName = .ok table ∧ (∃ sql, d.InsertContract data v table sql) ∧
      ∃ sql, d.UpdateContract data v sql) ∧
    d.IsIndependent data := by
  obtain ⟨table, sqlName, identifier⟩ := hd.sqlName_eq_ok
  exact ⟨⟨table, sqlName, insertContract hd ha keys v sqlName identifier,
    updateContract hd ha other keys v sqlName identifier⟩, isIndependent hd keys⟩

def intoTable : Descriptor where
  tableName := .text "INTO"
  aliasName := "set"
  columns :=
    [{ name := .text "id", primaryKey := .bool true }, { name := .text "set" },
     { name := .text "values" }, { name := .text "note" }]
  settings := {}

def intoEntries : Record :=
  [("set_values", .int 1), ("values", .null), ("other", .int 2), ("set", .int 3),
   ("set_set", .null)]

theorem placeholder_contract_of_intoTable :
    (∃ sql verdict, (intoTable.sqlInsert (.record intoEntries)).outcome = .ok sql ∧
      (Verifier.unreading.verify (.text sql)).outcome = .ok verdict ∧
      verdict.parserCalls =
        [⟨"INSERT INTO into AS set (set, values) VALUES (:set_set, :set_values)",
          .text "postgres"⟩] ∧
      verdict.notes.placeholders = some ["set_set", "set_values"]) ∧
    (∃ sql verdict, (intoTable.sqlUpdate (.record intoEntries)).outcome = .ok sql ∧
      (Verifier.unreading.verify (.text sql)).outcome = .ok verdict ∧
      verdict.parserCalls =
        [⟨"UPDATE into AS set SET set.set = :set_set, set.values = :set_values " ++
          "WHERE set.id = :set_id", .text "postgres"⟩] ∧
      verdict.notes.placeholders = some ["set_set", "set_values", "set_id"]) ∧
    intoTable.sqlInsert (.record (("more", .null) :: intoEntries.reverse)) =
      intoTable.sqlInsert (.record intoEntries) := by
  obtain ⟨⟨table, sqlName, ⟨insert, inserted⟩, update, updated⟩, independent⟩ :=
    placeholder_contract intoTable (by decide) (by decide) (by decide)
      (.record intoEntries) (Value.isKeySet_record _) .unreading
  have lowered : intoTable.sqlName = .ok "into" := rfl
  obtain rfl := Except.ok.inj (sqlName.symm.trans lowered)
  refine ⟨?_, ?_, ?_⟩
  · have text : (intoTable.sqlInsert (.record intoEntries)).outcome =
        .ok "INSERT INTO into AS set (set.set, set.values) VALUES ($set_set, $set_values)" := rfl
    obtain rfl := Except.ok.inj (inserted.generated.symm.trans text)
    obtain ⟨verdict, verified, call, noted⟩ := inserted.shown (by decide)
    exact ⟨_, verdict, text, verified, call.trans (by decide), noted.trans (by decide)⟩
  · have text : (intoTable.sqlUpdate (.record intoEntries)).outcome =
        .ok ("UPDATE into AS set SET set.set = $set_set, set.values = $set_values " ++
          "WHERE set.id = $set_id") := rfl
    obtain rfl := Except.ok.inj (updated.generated.symm.trans text)
    obtain ⟨verdict, verified, call, noted⟩ := updated.shown (by decide)
    exact ⟨_, verdict, text, verified, call.trans (by decide), noted.trans (by decide)⟩
  · refine independent.insertEntries intoEntries [("more", .null)] _ rfl ?_ (by decide)
    exact (intoEntries.reverse_perm.cons _).trans (List.perm_append_singleton _ _).symm

end TableSchema.Descriptor
