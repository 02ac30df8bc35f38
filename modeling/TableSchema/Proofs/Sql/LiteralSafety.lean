import TableSchema.Proofs.Descriptor.Generation
import TableSchema.Proofs.Sql.LiteralPart

/-!
Values cannot leave their literals. A statement rendered from names without quotes ends outside of
any literal, its literals hold the supplied texts in order, and no such text changes what stands
around it.
-/

namespace TableSchema

open Sql

namespace Filter

variable {f f' : Filter}

theorem IsQuoteFree.comparison (h : f.IsQuoteFree) : f.comparison.IsQuoteFree := by
  have equals : (Value.text "=").IsQuoteFree := ⟨"=", rfl, by decide⟩
  unfold Filter.comparison Value.orElse
  split
  next nonempty =>
    rcases h.operator with null | free
    · simp [null, Value.isTrue] at nonempty
    · exact free
  next => exact equals

theorem SameForm.comparison (h : f.SameForm f') : f'.comparison = f.comparison := by
  have operators : f'.bare.operator = f.bare.operator := by rw [h.bare]
  have same : f'.operator = f.operator := operators
  rw [Filter.comparison, Filter.comparison, same]

end Filter

namespace Descriptor

variable {d d' : Descriptor} {f f' : Filter}

theorem quote_not_mem_aliasToColumnName (d : Descriptor) {s : String} (hs : '\'' ∉ s.toList) :
    '\'' ∉ (d.aliasToColumnName s).toList := by
  unfold aliasToColumnName
  split
  next rest found =>
    intro mem
    rw [String.toList_ofList] at mem
    have whole := List.isPrefixOf?_eq_some_iff_append_eq.1 found
    exact hs (whole ▸ List.mem_append_right _ mem)
  next => exact hs

theorem filterColumn_eq_ok (hd : d.IsQuoteFree) (hf : f.IsQuoteFree) :
    ∃ column, d.filterColumn f = .ok column ∧ '\'' ∉ column.toList := by
  unfold filterColumn
  rcases hf.aliasName with null | ⟨s, text, free⟩
  · have name : '\'' ∉ f.column.display.toList := by
      rcases hf.column with null | free
      · rw [null]
        decide
      · exact free.display
    rw [null]
    exact ⟨_, rfl, quote_not_mem_reference hd name⟩
  · rw [text]
    exact ⟨_, rfl, quote_not_mem_reference hd (quote_not_mem_aliasToColumnName d free)⟩

theorem filterColumn_eq_of_sameForm (form : d.SameForm d') (same : f.SameForm f') :
    d'.filterColumn f' = d.filterColumn f := by
  have columns : f'.bare.column = f.bare.column := by rw [same.bare]
  have aliases : f'.bare.aliasName = f.bare.aliasName := by rw [same.bare]
  have column : f'.column = f.column := columns
  have aliasName : f'.aliasName = f.aliasName := aliases
  unfold filterColumn
  rw [column, aliasName]
  simp only [reference, aliasToColumnName, prefixed, form.aliasName]

theorem parallel_filterTest (hf : f.IsQuoteFree) (same : f.SameForm f') :
    ∃ test test', filterTest f = .ok test ∧ filterTest f' = .ok test' ∧
      Parallel test.toList test'.toList f.valueTexts f'.valueTexts := by
  obtain ⟨operator, text, free⟩ := hf.comparison
  unfold filterTest
  rw [same.comparison, same.isNull, text]
  rcases hf.value with null | scalar
  · have null' : f'.value = .null :=
      (Value.isNull_iff _).1 (same.isNull.trans ((Value.isNull_iff _).2 null))
    rw [null, Filter.valueTexts, Filter.valueTexts, null, null']
    refine ⟨nullTest operator, nullTest operator, rfl, rfl, Parallel.plain ?_⟩
    unfold nullTest
    split <;> decide
  · rw [Value.isNull_eq_false scalar]
    refine ⟨_, _, rfl, rfl, ?_⟩
    simp only [String.toList_append, List.append_assoc]
    exact ((Literal.parallel_ofFilter scalar same.value).plain_append (by decide)).plain_append free

theorem parallel_condition (hd : d.IsQuoteFree) (hf : f.IsQuoteFree) (form : d.SameForm d')
    (same : f.SameForm f') :
    ∃ text text', d.condition f = .ok text ∧ d'.condition f' = .ok text' ∧
      Parallel text.toList text'.toList f.valueTexts f'.valueTexts := by
  obtain ⟨column, columns, free⟩ := filterColumn_eq_ok hd hf
  obtain ⟨test, test', tests, tests', parallel⟩ := parallel_filterTest hf same
  have columns' := (filterColumn_eq_of_sameForm form same).trans columns
  refine ⟨column ++ " " ++ test, column ++ " " ++ test', ?_, ?_, ?_⟩
  · rw [condition, columns, tests]
    rfl
  · rw [condition, columns', tests']
    rfl
  · simp only [String.toList_append, List.append_assoc]
    exact (parallel.plain_append (by decide)).plain_append free

theorem parallel_conditions (hd : d.IsQuoteFree) (form : d.SameForm d')
    {filters filters' : List Filter} (hf : ∀ f ∈ filters, f.IsQuoteFree)
    (same : List.Forall₂ Filter.SameForm filters filters') :
    ∃ texts texts', filters.mapM d.condition = .ok texts ∧
      filters'.mapM d'.condition = .ok texts' ∧
      ParallelParts texts texts' (filters.flatMap Filter.valueTexts)
        (filters'.flatMap Filter.valueTexts) := by
  induction same with
  | nil => exact ⟨[], [], rfl, rfl, .nil⟩
  | @cons f f' fs fs' first _ ih =>
    obtain ⟨text, text', one, one', part⟩ :=
      parallel_condition hd (hf f List.mem_cons_self) form first
    obtain ⟨texts, texts', others, others', parts⟩ :=
      ih fun g hg => hf g (List.mem_cons_of_mem f hg)
    refine ⟨text :: texts, text' :: texts', ?_, ?_, .cons part parts⟩
    · rw [List.mapM_cons, one, others]
      rfl
    · rw [List.mapM_cons, one', others']
      rfl

theorem parallel_whereText {texts texts' as bs : List String}
    (h : ParallelParts texts texts' as bs) :
    Parallel (whereText texts).toList (whereText texts').toList as bs := by
  cases h with
  | nil => exact Parallel.plain List.not_mem_nil
  | cons part parts =>
    have joined := (ParallelParts.cons part parts).intercalate
      (show '\'' ∉ " AND ".toList by decide) (by decide)
    unfold whereText
    simp only [String.toList_append]
    exact joined.plain_append (by decide)

theorem parallel_whereClause (hd : d.IsQuoteFree) (form : d.SameForm d') {given given' : Value}
    {filters filters' : List Filter} (listed : Filter.listOf given = .ok filters)
    (listed' : Filter.listOf given' = .ok filters') (hf : ∀ f ∈ filters, f.IsQuoteFree)
    (same : List.Forall₂ Filter.SameForm filters filters') :
    ∃ clause clause', d.whereClause given = .ok clause ∧ d'.whereClause given' = .ok clause' ∧
      Parallel clause.toList clause'.toList (filters.flatMap Filter.valueTexts)
        (filters'.flatMap Filter.valueTexts) := by
  obtain ⟨texts, texts', conditions, conditions', parts⟩ := parallel_conditions hd form hf same
  refine ⟨whereText texts, whereText texts', ?_, ?_, parallel_whereText parts⟩
  · rw [whereClause, listed]
    simp [bind, Except.bind, conditions, pure, Except.pure]
  · rw [whereClause, listed']
    simp [bind, Except.bind, conditions', pure, Except.pure]

theorem selected_true (d : Descriptor) : d.selected true = d.columns := by
  simp [selected]

theorem parallel_selectText (hd : d.IsQuoteFree) (hd' : d'.IsQuoteFree) (form : d.SameForm d')
    {table : String} (ht : '\'' ∉ table.toList) {clause clause' : String} {as bs : List String}
    (clauses : Parallel clause.toList clause'.toList as bs) (useLabels : Bool) :
    Parallel (d.selectText useLabels table clause).toList
      (d'.selectText useLabels table clause').toList
      (d.columns.flatMap (fun c => if useLabels then c.caseTexts else []) ++ as)
      (d'.columns.flatMap (fun c => if useLabels then c.caseTexts else []) ++ bs) := by
  have fields := (ParallelParts.map ((forall₂_of_mem form.columns hd.columns hd'.columns).imp
    fun c c' ⟨hc, hc', same⟩ => parallel_columnField hd hc hc' form same useLabels)).intercalate
    (show '\'' ∉ ", ".toList by decide) (by decide)
  have source :
      '\'' ∉ " FROM ".toList ++ (table.toList ++ (" AS ".toList ++ d.aliasName.toList)) := by
    simp only [List.mem_append, not_or]
    exact ⟨by decide, ht, by decide, hd.aliasName⟩
  have whole := fields.append_plain_append source (by simp) clauses
  unfold selectText columnFields
  rw [selected_true, selected_true, form.aliasName]
  simp only [String.toList_append, List.append_assoc] at whole ⊢
  exact whole.plain_append (by decide)

theorem parallel_deleteText (hd : d.IsQuoteFree) (form : d.SameForm d')
    {table : String} (ht : '\'' ∉ table.toList) {clause clause' : String} {as bs : List String}
    (clauses : Parallel clause.toList clause'.toList as bs) :
    Parallel (d.deleteText table clause).toList (d'.deleteText table clause').toList as bs := by
  unfold deleteText
  rw [form.aliasName]
  simp only [String.toList_append, List.append_assoc]
  exact (((clauses.plain_append hd.aliasName).plain_append (by decide)).plain_append
    ht).plain_append (by decide)

theorem parallel_plainStatement (hd : d.IsQuoteFree) (hd' : d'.IsQuoteFree)
    (form : d.SameForm d') {given given' : Value} {filters filters' : List Filter}
    (listed : Filter.listOf given = .ok filters) (listed' : Filter.listOf given' = .ok filters')
    (hf : ∀ f ∈ filters, f.IsQuoteFree) (same : List.Forall₂ Filter.SameForm filters filters')
    (kind : PlainStatement) :
    ∃ sql sql', d.plainStatement given kind = .ok sql ∧ d'.plainStatement given' kind = .ok sql' ∧
      Parallel sql.toList sql'.toList (d.suppliedTexts filters kind)
        (d'.suppliedTexts filters' kind) := by
  obtain ⟨name, text, free⟩ := hd.tableName
  have table : '\'' ∉ (Text.lower name).toList := by
    rw [Text.toList_lower]
    exact fun mem => free (Text.quote_mem_of_mem_lowerChars mem)
  have sqlName : d.sqlName = .ok (Text.lower name) := sqlName_eq text
  have sqlName' : d'.sqlName = .ok (Text.lower name) := sqlName_eq (form.tableName.trans text)
  obtain ⟨clause, clause', wheres, wheres', clauses⟩ :=
    parallel_whereClause hd form listed listed' hf same
  cases kind with
  | createTable =>
    refine ⟨_, _, ?_, ?_, parallel_createTableText hd form table⟩
    · rw [plainStatement, sqlCreateTable_eq sqlName]
    · rw [plainStatement, sqlCreateTable_eq sqlName']
  | whereClause => exact ⟨clause, clause', wheres, wheres', clauses⟩
  | delete =>
    refine ⟨_, _, ?_, ?_, parallel_deleteText hd form table clauses⟩
    · rw [plainStatement, sqlDelete_eq sqlName wheres]
    · rw [plainStatement, sqlDelete_eq sqlName' wheres']
  | select useLabels =>
    have texts := parallel_selectText hd hd' form table clauses useLabels
    refine ⟨d.selectText useLabels (Text.lower name) clause,
      d'.selectText useLabels (Text.lower name) clause', ?_, ?_, ?_⟩
    · rw [plainStatement, sqlSelect_eq sqlName wheres]
    · rw [plainStatement, sqlSelect_eq sqlName' wheres']
    · cases useLabels with
      | false =>
        have none (columns : List Column) :
            columns.flatMap (fun _ => ([] : List String)) = [] :=
          List.flatMap_eq_nil_iff.2 fun _ _ => rfl
        simpa [suppliedTexts, none] using texts
      | true => simpa [suppliedTexts] using texts

/-- Whatever the values are made of, a statement ends outside of any literal and its literals hold
the supplied texts in order. Other values of the same kinds leave the same skeleton. -/
theorem plainStatement_literals (d : Descriptor) (hd : d.IsQuoteFree) (given : Value)
    (filters : List Filter) (listed : Filter.listOf given = .ok filters)
    (hf : ∀ f ∈ filters, f.IsQuoteFree) (kind : PlainStatement) :
    ∃ sql, d.plainStatement given kind = .ok sql ∧ (Sql.read sql).outside = true ∧
      (Sql.read sql).contents = d.suppliedTexts filters kind ∧
      ∀ (d' : Descriptor) (given' : Value) (filters' : List Filter), d'.IsQuoteFree →
        Filter.listOf given' = .ok filters' → d.SameForm d' →
        List.Forall₂ Filter.SameForm filters filters' →
        ∃ sql', d'.plainStatement given' kind = .ok sql' ∧
          (Sql.read sql').skeleton = (Sql.read sql).skeleton := by
  have reflexive : List.Forall₂ Filter.SameForm filters filters :=
    List.forall₂_same.2 fun f _ => Filter.SameForm.refl f
  obtain ⟨sql, _, answer, _, alone⟩ :=
    parallel_plainStatement hd hd (.refl d) listed listed hf reflexive kind
  obtain ⟨outside, contents, -⟩ := read_of_parallel alone
  refine ⟨sql, answer, outside, contents, ?_⟩
  intro d' given' filters' hd' listed' form same
  obtain ⟨sql₁, sql', answer₁, answer', both⟩ :=
    parallel_plainStatement hd hd' form listed listed' hf same kind
  obtain rfl : sql = sql₁ := Except.ok.inj (answer.symm.trans answer₁)
  exact ⟨sql', answer', (read_of_parallel both).2.2⟩

def quotedValuesTable : Descriptor where
  tableName := .text "Orders"
  aliasName := "o"
  columns :=
    [{ name := .text "note", defaultValue := .text "'); DROP TABLE orders; --" },
     { name := .text "kind"
       enumValues := some [⟨.text "'", .text "it's"⟩, ⟨.bool true, .null⟩, ⟨.int 3, .text ""⟩] }]
  settings := {}

theorem quotedValuesTable_isQuoteFree : quotedValuesTable.IsQuoteFree where
  tableName := ⟨"Orders", rfl, by decide⟩
  aliasName := by decide
  defaultSqlType := by decide
  columns := by
    intro c hc
    simp only [quotedValuesTable, List.mem_cons, List.not_mem_nil, or_false] at hc
    rcases hc with rfl | rfl
    · exact ⟨⟨"note", rfl, by decide⟩, .inl rfl, .inr rfl, fun es none => by simp at none⟩
    · refine ⟨⟨"kind", rfl, by decide⟩, .inl rfl, .inl rfl, fun es some e he => ?_⟩
      obtain rfl := Option.some.inj some
      simp only [List.mem_cons, List.not_mem_nil, or_false] at he
      rcases he with rfl | rfl | rfl
      · exact ⟨rfl, .inr ⟨"it's", rfl⟩⟩
      · exact ⟨rfl, .inl rfl⟩
      · exact ⟨rfl, .inr ⟨"", rfl⟩⟩

theorem plainStatement_literals_of_quotedValuesTable :
    ∃ sql, quotedValuesTable.plainStatement
        (.record [("column", .text "note"), ("value", .text "x' OR ''='")]) (.select true) =
          .ok sql ∧ (Sql.read sql).outside = true ∧
      (Sql.read sql).contents =
        ["'", "it's", "True", "Value \"True\"", "Value \"3\"", "Value \"", "\"", "x' OR ''='"] := by
  have free : ∀ f ∈ [({ column := .text "note", value := .text "x' OR ''='" } : Filter)],
      f.IsQuoteFree := by
    intro f hf
    obtain rfl := List.mem_singleton.1 hf
    exact ⟨.inr ⟨"note", rfl, by decide⟩, .inl rfl, .inr ⟨"=", rfl, by decide⟩, .inr rfl⟩
  obtain ⟨sql, answer, outside, contents, -⟩ :=
    plainStatement_literals quotedValuesTable quotedValuesTable_isQuoteFree
      (.record [("column", .text "note"), ("value", .text "x' OR ''='")]) _ rfl free (.select true)
  refine ⟨sql, answer, outside, contents.trans ?_⟩
  decide

end Descriptor

end TableSchema
