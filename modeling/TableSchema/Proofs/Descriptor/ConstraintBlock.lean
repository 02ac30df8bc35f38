import Mathlib.Data.List.Forall2
import TableSchema.Proofs.Descriptor.PlainNames
import TableSchema.Proofs.Sql.DollarMark
import TableSchema.Proofs.Text.Numeral

/-!
The marks of the blocks that add constraints. A block is intact where `$$` stands in it twice, to
open its body and to close it. What a foreign key is made of cannot bring in a mark; an enum value
can, since nothing but quotes is escaped in a literal.
-/

namespace TableSchema

open Sql

namespace Literal

theorem hasMark_ofEnum (value : Value) :
    hasMark (ofEnum value).toList = hasMark value.display.toList := by
  unfold ofEnum
  split
  · rfl
  · exact hasMark_quote value.display

end Literal

namespace Descriptor

variable {table constraint : String}

def conditionalBody (table constraint statement : String) : String :=
  "\n".intercalate
    ["BEGIN",
     "  IF NOT EXISTS (",
     "    SELECT 1 FROM pg_constraint c",
     "    JOIN pg_class t ON c.conrelid = t.oid",
     "    WHERE lower(c.conname) = lower('" ++ constraint ++ "') AND t.relname = '" ++ table ++ "'",
     "  ) THEN",
     "    " ++ statement,
     "  END IF;",
     "END"]

theorem conditionalBlock_eq (table constraint statement : String) :
    conditionalBlock table constraint statement =
      delimited (conditionalBody table constraint statement) := by
  rw [conditionalBlock, delimited, conditionalBody]
  simp only [String.intercalate_cons_cons, String.intercalate_singleton, String.append_assoc]

theorem hasMark_conditionalBody (ht : '$' ∉ table.toList) (hc : '$' ∉ constraint.toList)
    (statement : String) :
    hasMark (conditionalBody table constraint statement).toList = hasMark statement.toList := by
  have test : '$' ∉ ("    WHERE lower(c.conname) = lower('" ++ constraint ++
      "') AND t.relname = '" ++ table ++ "'").toList := by
    simp only [String.toList_append, List.mem_append, not_or]
    exact ⟨⟨⟨⟨by decide, hc⟩, by decide⟩, ht⟩, by decide⟩
  have indented : hasMark ("    " ++ statement).toList = hasMark statement.toList := by
    rw [String.toList_append]
    exact hasMark_plain_append (by decide) _
  have fixed (line : String) (plain : '$' ∉ line.toList) : hasMark line.toList = false :=
    hasMark_of_plain plain
  rw [conditionalBody, hasMark_intercalate (by decide) (by decide)]
  simp only [List.any_cons, List.any_nil, fixed _ test, indented]
  simp only [fixed "BEGIN" (by decide), fixed "  IF NOT EXISTS (" (by decide),
    fixed "    SELECT 1 FROM pg_constraint c" (by decide),
    fixed "    JOIN pg_class t ON c.conrelid = t.oid" (by decide),
    fixed "  ) THEN" (by decide), fixed "  END IF;" (by decide), fixed "END" (by decide),
    Bool.false_or, Bool.or_false]

theorem hasMark_addConstraintText (ht : '$' ∉ table.toList) (hc : '$' ∉ constraint.toList)
    (clause : String) :
    hasMark (addConstraintText table constraint clause).toList = hasMark clause.toList := by
  have head :
      '$' ∉ ("ALTER TABLE " ++ table ++ " ADD CONSTRAINT " ++ constraint ++ " ").toList := by
    simp only [String.toList_append, List.mem_append, not_or]
    exact ⟨⟨⟨⟨by decide, ht⟩, by decide⟩, hc⟩, by decide⟩
  unfold addConstraintText
  rw [String.toList_append, hasMark_append_plain _ (by decide), String.toList_append,
    hasMark_plain_append head]

theorem isIntact_conditionalBlock_iff (ht : '$' ∉ table.toList) (hc : '$' ∉ constraint.toList)
    (clause : String) :
    IsIntact (conditionalBlock table constraint (addConstraintText table constraint clause)) ↔
      hasMark clause.toList = false := by
  rw [conditionalBlock_eq, isIntact_delimited_iff, hasMark_conditionalBody ht hc,
    hasMark_addConstraintText ht hc]

section Enum

variable {column : Value}

theorem hasMark_enumCheck (hn : '$' ∉ column.display.toList) (values : List EnumValue) :
    hasMark (enumCheck column values).toList =
      values.any fun e => hasMark e.value.display.toList := by
  have head : '$' ∉ ("CHECK (" ++ column.display ++ " IN (").toList := by
    simp only [String.toList_append, List.mem_append, not_or]
    exact ⟨⟨by decide, hn⟩, by decide⟩
  rw [enumCheck, String.toList_append, hasMark_append_plain _ (by decide), String.toList_append,
    hasMark_plain_append head, hasMark_intercalate (by decide) (by decide), List.any_map]
  simp only [Function.comp_def, Literal.hasMark_ofEnum]

theorem dollar_not_mem_enumConstraintName (ht : '$' ∉ table.toList)
    (hn : '$' ∉ column.display.toList) : '$' ∉ (enumConstraintName table column).toList := by
  simp only [enumConstraintName, String.toList_append, List.mem_append, not_or]
  exact ⟨⟨⟨ht, by decide⟩, hn⟩, by decide⟩

theorem isIntact_enumConstraintBlock_iff (ht : '$' ∉ table.toList)
    (hn : '$' ∉ column.display.toList) (values : List EnumValue) :
    IsIntact (enumConstraintBlock table column values) ↔
      ∀ e ∈ values, hasMark e.value.display.toList = false := by
  rw [enumConstraintBlock,
    isIntact_conditionalBlock_iff ht (dollar_not_mem_enumConstraintName ht hn),
    hasMark_enumCheck hn, List.any_eq_false]
  simp only [Bool.not_eq_true]

theorem enumConstraintBlocks_forall₂ (d : Descriptor) (table : String)
    {R : Column → String → Prop}
    (h : ∀ c ∈ d.columns, ∀ values, c.enumValues = some values →
      R c (enumConstraintBlock table c.name values)) :
    List.Forall₂ R (d.columns.filter fun c => c.enumValues.isSome)
      (d.enumConstraintBlocks table) := by
  unfold enumConstraintBlocks
  generalize d.columns = columns at h ⊢
  induction columns with
  | nil => exact .nil
  | cons c columns ih =>
    have rest := ih fun x hx => h x (List.mem_cons_of_mem c hx)
    cases values : c.enumValues with
    | none => simpa [values] using rest
    | some es => simpa [values] using And.intro (h c List.mem_cons_self es values) rest

end Enum

section ForeignKey

variable {fk : ForeignKey}

theorem dollar_not_mem_actionText (event : String) (he : '$' ∉ event.toList) {action : Value}
    (ha : ForeignKey.IsAction action) : '$' ∉ (actionText event action).toList := by
  unfold actionText
  split
  next =>
    have known : ∀ s ∈ ForeignKey.knownActions, '$' ∉ s.toList := by decide
    have plain : '$' ∉ action.display.toList := by
      rcases ha with rfl | ⟨s, mem, rfl⟩
      · decide
      · exact known s mem
    simp only [String.toList_append, List.mem_append, not_or]
    exact ⟨⟨⟨by decide, he⟩, by decide⟩, plain⟩
  next => exact List.not_mem_nil

theorem dollar_not_mem_foreignKeyClause (hfk : fk.HasPlainNames) {referenced : String}
    (hr : '$' ∉ referenced.toList) : '$' ∉ (foreignKeyClause fk referenced).toList := by
  have column := hfk.localColumn.display.dollar_not_mem
  have target := hfk.referencedColumn.display.dollar_not_mem
  have delete := dollar_not_mem_actionText "DELETE" (by decide) hfk.onDelete
  have update := dollar_not_mem_actionText "UPDATE" (by decide) hfk.onUpdate
  unfold foreignKeyClause
  simp only [String.toList_append, List.mem_append, not_or]
  exact ⟨⟨⟨⟨⟨⟨⟨⟨by decide, column⟩, by decide⟩, hr⟩, by decide⟩, target⟩, by decide⟩, delete⟩,
    update⟩

theorem isIntact_foreignKeyText (ht : '$' ∉ table.toList) (hfk : fk.HasPlainNames) :
    IsIntact (foreignKeyText table fk) := by
  have column := hfk.localColumn.display.dollar_not_mem
  have name : '$' ∉ (foreignKeyConstraintName table fk).toList := by
    simp only [foreignKeyConstraintName, String.toList_append, List.mem_append, not_or]
    exact ⟨⟨⟨ht, by decide⟩, column⟩, by decide⟩
  have clause := dollar_not_mem_foreignKeyClause hfk
    hfk.referencedTable.display.lower.dollar_not_mem
  exact (isIntact_conditionalBlock_iff ht name _).2 (hasMark_of_plain clause)

end ForeignKey

/-- The block of a column's enum values is intact exactly when no value holds a mark of its own, and
the block of a foreign key always is. -/
theorem isIntact_constraintBlocks (d : Descriptor) (hd : d.HasPlainNames)
    (hk : ∀ fk ∈ d.constraints, fk.HasPlainNames) :
    (∃ blocks, d.sqlCreateEnumConstraints.outcome = .ok blocks ∧
      List.Forall₂
        (fun c block => IsIntact block ↔
          ∀ values, c.enumValues = some values →
            ∀ e ∈ values, Text.occurs "$$".toList e.value.display.toList = false)
        (d.columns.filter fun c => c.enumValues.isSome) blocks) ∧
    ∃ blocks, d.sqlCreateTableConstraints.outcome = .ok blocks ∧
      blocks.length = d.constraints.length ∧ ∀ block ∈ blocks, IsIntact block := by
  obtain ⟨table, sqlName, identifier⟩ := hd.sqlName_eq_ok
  have plain : '$' ∉ table.toList := identifier.dollar_not_mem
  constructor
  · refine ⟨d.enumConstraintBlocks table, ?_, ?_⟩
    · rw [sqlCreateEnumConstraints_eq sqlName]
    · refine enumConstraintBlocks_forall₂ d table fun c hc values held => ?_
      have name := (hd.columns c hc).display.dollar_not_mem
      rw [isIntact_enumConstraintBlock_iff plain name]
      constructor
      · rintro free _ same
        rw [held] at same
        exact Option.some.inj same ▸ free
      · exact fun free => free values held
  · have named : ∀ fk ∈ d.constraints, ∃ referenced, fk.referencedTable = .text referenced := by
      intro fk hfk
      obtain ⟨referenced, text, -⟩ := (hk fk hfk).referencedTable
      exact ⟨referenced, text⟩
    refine ⟨d.constraints.map (foreignKeyText table), ?_, List.length_map _, ?_⟩
    · rw [sqlCreateTableConstraints_eq sqlName named]
    · intro block mem
      obtain ⟨fk, hfk, rfl⟩ := List.mem_map.1 mem
      exact isIntact_foreignKeyText plain (hk fk hfk)

def dollarValueTable : Descriptor where
  tableName := .text "Prices"
  aliasName := "p"
  columns :=
    [{ name := .text "currency", enumValues := some [⟨.text "$", .null⟩, ⟨.int 3, .null⟩] },
     { name := .text "unit", enumValues := some [⟨.text "$'", .null⟩, ⟨.text "$$", .null⟩] }]
  constraints :=
    [{ localColumn := .text "unit"
       referencedTable := .text "Units"
       referencedColumn := .text "id"
       onDelete := .text "SET NULL" }]
  settings := {}

theorem isIntact_constraintBlocks_of_dollarValueTable :
    (∃ first second, dollarValueTable.sqlCreateEnumConstraints.outcome = .ok [first, second] ∧
      IsIntact first ∧ ¬ IsIntact second) ∧
    ∃ blocks, dollarValueTable.sqlCreateTableConstraints.outcome = .ok blocks ∧
      blocks.length = 1 ∧ ∀ block ∈ blocks, IsIntact block := by
  obtain ⟨⟨blocks, answer, marks⟩, keys⟩ :=
    isIntact_constraintBlocks dollarValueTable (by decide)
      (by decide)
  refine ⟨?_, keys⟩
  have two : dollarValueTable.columns.filter (fun c => c.enumValues.isSome) =
      dollarValueTable.columns := rfl
  rw [two] at marks
  cases marks with
  | @cons _ first _ _ single rest =>
    cases rest with
    | @cons _ second _ _ double none =>
      cases none
      refine ⟨first, second, answer, single.2 ?_, ?_⟩
      · rintro values held e he
        obtain rfl := Option.some.inj held
        simp only [List.mem_cons, List.not_mem_nil, or_false] at he
        rcases he with rfl | rfl <;> decide
      · intro intact
        have free := double.1 intact _ rfl ⟨.text "$$", .null⟩ (by decide)
        exact absurd free (by decide)

/-- Names that are identifiers are not enough for every block to be intact. -/
theorem not_forall_isIntact :
    ¬ ∀ d : Descriptor, d.HasPlainNames → (∀ fk ∈ d.constraints, fk.HasPlainNames) →
      ∃ blocks, d.sqlCreateEnumConstraints.outcome = .ok blocks ∧
        ∀ block ∈ blocks, IsIntact block := by
  intro intact
  obtain ⟨blocks, answer, all⟩ := intact dollarValueTable (by decide)
    (by decide)
  have sqlName : dollarValueTable.sqlName = .ok (Text.lower "Prices") := sqlName_eq rfl
  rw [sqlCreateEnumConstraints_eq sqlName] at answer
  obtain rfl := Except.ok.inj answer
  have second := all (enumConstraintBlock (Text.lower "Prices") (.text "unit")
    [⟨.text "$'", .null⟩, ⟨.text "$$", .null⟩]) (by simp [enumConstraintBlocks, dollarValueTable])
  have plain : '$' ∉ (Text.lower "Prices").toList := by decide
  rw [isIntact_enumConstraintBlock_iff plain (by decide)] at second
  exact absurd (second ⟨.text "$$", .null⟩ (by decide)) (by decide)

end Descriptor

end TableSchema
