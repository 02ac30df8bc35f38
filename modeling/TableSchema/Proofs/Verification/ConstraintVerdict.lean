import TableSchema.Proofs.Descriptor.ConditionCount

/-!
Verdicts on the blocks that add constraints. The block of a foreign key is always accepted, and that
of a column's enum values unless a text among them holds a mark or the texts open more or fewer
conditions than they close. Nothing else in a text matters: no quote, no line break and no line that
reads like a line of the block's own frame.
-/

namespace TableSchema

open Sql Text Verification

namespace EnumValue

/-- What a block with the given enum values is rejected for. -/
def blockProblems (values : List EnumValue) : List Problem :=
  (if (texts values).any fun s => occurs "$$".toList s.toList then [.unbalancedDollarQuotes]
    else []) ++
  (if textCount "IF NOT EXISTS".toList values = textCount "END IF;".toList values then []
    else [.unbalancedIf])

theorem blockProblems_eq_nil_iff (values : List EnumValue) :
    blockProblems values = [] ↔
      (∀ s ∈ texts values, occurs "$$".toList s.toList = false) ∧
      textCount "IF NOT EXISTS".toList values = textCount "END IF;".toList values := by
  rw [blockProblems, List.append_eq_nil_iff, ite_eq_right_iff, ite_eq_left_iff]
  simp

theorem hasMark_display_of_scalar {value : Value} (scalar : value.isScalar = true) :
    hasMark value.display.toList = value.literalTexts.any fun s => hasMark s.toList := by
  by_cases number : value.isNumber = true
  · have plain : '$' ∉ value.display.toList := fun mem =>
      absurd (Value.isNumeralChar_of_mem_display number mem) (by decide)
    rw [hasMark_of_plain plain]
    cases value with
    | text s => simp [Value.isNumber] at number
    | _ => rfl
  · cases value with
    | text s => exact (Bool.or_false _).symm
    | bool b => cases b <;> decide
    | int n => exact absurd rfl number
    | float x => exact absurd rfl number
    | _ => simp [Value.isScalar] at scalar

theorem any_hasMark_display {values : List EnumValue}
    (scalar : ∀ e ∈ values, e.value.isScalar = true) :
    (values.any fun e => hasMark e.value.display.toList) =
      (texts values).any fun s => hasMark s.toList := by
  induction values with
  | nil => rfl
  | cons e values ih =>
    have others := ih fun x hx => scalar x (List.mem_cons_of_mem e hx)
    have first := hasMark_display_of_scalar (scalar e List.mem_cons_self)
    rw [List.any_cons, first, others, texts_cons, List.any_append]

end EnumValue

namespace Descriptor

variable {table constraint : String}

theorem isFramed_conditionalBody (table constraint statement : String) :
    isFramed (conditionalBody table constraint statement).toList = true := by
  have first : ∃ rest, (conditionalBody table constraint statement).toList =
      "BEGIN".toList ++ '\n' :: rest := by
    rw [conditionalBody, String.intercalate_cons_cons, String.append_assoc, String.toList_append,
      String.toList_append]
    exact ⟨_, rfl⟩
  have last : ∃ front, (conditionalBody table constraint statement).toList =
      front ++ '\n' :: "END".toList := by
    have closing : "\n  END IF;\nEND".toList = "\n  END IF;".toList ++ '\n' :: "END".toList := by
      decide
    rw [conditionalBody_eq]
    simp only [String.toList_append, closing, ← List.append_assoc]
    exact ⟨_, rfl⟩
  obtain ⟨rest, first⟩ := first
  obtain ⟨front, last⟩ := last
  exact isFramed_of_lines first last

theorem verify_conditionalBlock (v : Verifier) (table constraint statement : String) :
    (v.verify (.text (conditionalBlock table constraint statement))).outcome =
      .ok (blockVerdict (conditionalBlock table constraint statement)
        ((if hasMark (conditionalBody table constraint statement).toList then
            [.unbalancedDollarQuotes] else []) ++
          (if isBalanced (conditionalBody table constraint statement).toList then []
            else [.unbalancedIf]))) := by
  have opened : (conditionalBody table constraint statement).toList.head?.any (!isBlank ·) =
      true := by
    rw [conditionalBody, String.intercalate_cons_cons, String.append_assoc, String.toList_append]
    rfl
  rw [conditionalBlock_eq, Verifier.verify_delimited, blockProblems, blockBody?_delimited opened]
  dsimp only
  rw [isFramed_conditionalBody, if_pos rfl, List.append_nil, hasMark]

theorem verify_foreignKeyText (v : Verifier) (ht : IsIdentifier table) {fk : ForeignKey}
    (hfk : fk.HasPlainNames) :
    (v.verify (.text (foreignKeyText table fk))).outcome =
      .ok (blockVerdict (foreignKeyText table fk) []) := by
  have referenced := hfk.referencedTable.display.lower
  have balanced := isBalanced_foreignKeyBody ht hfk referenced
  have name := (isIdentifier_foreignKeyConstraintName ht hfk).dollar_not_mem
  have clause := dollar_not_mem_foreignKeyClause hfk referenced.dollar_not_mem
  have unmarked := (hasMark_conditionalBody ht.dollar_not_mem name _).trans
    ((hasMark_addConstraintText ht.dollar_not_mem name _).trans (hasMark_of_plain clause))
  rw [foreignKeyText, verify_conditionalBlock, balanced, unmarked]
  rfl

theorem verify_enumConstraintBlock (v : Verifier) (ht : IsIdentifier table) {column : Value}
    (hn : column.IsIdentifier) {values : List EnumValue}
    (scalar : ∀ e ∈ values, e.value.isScalar = true) :
    (v.verify (.text (enumConstraintBlock table column values))).outcome =
      .ok (blockVerdict (enumConstraintBlock table column values)
        (EnumValue.blockProblems values)) := by
  have name := (isIdentifier_enumConstraintName ht hn).dollar_not_mem
  have marks := (hasMark_conditionalBody ht.dollar_not_mem name _).trans
    ((hasMark_addConstraintText ht.dollar_not_mem name _).trans
      (hasMark_enumCheck hn.display.dollar_not_mem values))
  have balanced := isBalanced_enumBody ht hn scalar
  rw [enumConstraintBlock, verify_conditionalBlock, marks, EnumValue.any_hasMark_display scalar,
    EnumValue.blockProblems]
  simp only [balanced]
  rfl

/-- The verdicts on all blocks of a table with plain names, whatever parser stands ready. -/
theorem constraintBlock_verdicts (v : Verifier) (d : Descriptor) (hd : d.HasPlainNames)
    (hk : ∀ fk ∈ d.constraints, fk.HasPlainNames) :
    (∃ blocks, d.sqlCreateTableConstraints.outcome = .ok blocks ∧
      blocks.length = d.constraints.length ∧
      ∀ block ∈ blocks, ∃ verdict, (v.verify (.text block)).outcome = .ok verdict ∧
        verdict.isAccepted = true ∧ verdict.notes.kind = some "do_block" ∧
        verdict.parserCalls = []) ∧
    ∃ blocks, d.sqlCreateEnumConstraints.outcome = .ok blocks ∧
      List.Forall₂
        (fun c block => ∃ values, c.enumValues = some values ∧
          ((∀ e ∈ values, e.value.isScalar = true) →
            ∃ verdict, (v.verify (.text block)).outcome = .ok verdict ∧
              verdict = blockVerdict block (EnumValue.blockProblems values) ∧
              (verdict.isAccepted = true ↔
                (∀ s ∈ EnumValue.texts values, occurs "$$".toList s.toList = false) ∧
                EnumValue.textCount "IF NOT EXISTS".toList values =
                  EnumValue.textCount "END IF;".toList values)))
        (d.columns.filter fun c => c.enumValues.isSome) blocks := by
  obtain ⟨table, sqlName, identifier⟩ := hd.sqlName_eq_ok
  constructor
  · have named : ∀ fk ∈ d.constraints, ∃ referenced, fk.referencedTable = .text referenced := by
      intro fk hfk
      obtain ⟨referenced, text, -⟩ := (hk fk hfk).referencedTable
      exact ⟨referenced, text⟩
    refine ⟨d.constraints.map (foreignKeyText table), ?_, List.length_map _, ?_⟩
    · rw [sqlCreateTableConstraints_eq sqlName named]
    · intro block mem
      obtain ⟨fk, hfk, rfl⟩ := List.mem_map.1 mem
      exact ⟨_, verify_foreignKeyText v identifier (hk fk hfk), rfl, rfl, rfl⟩
  · refine ⟨d.enumConstraintBlocks table, ?_, ?_⟩
    · rw [sqlCreateEnumConstraints_eq sqlName]
    · refine enumConstraintBlocks_forall₂ d table fun c hc values held => ?_
      refine ⟨values, held, fun scalar => ?_⟩
      refine ⟨_, verify_enumConstraintBlock v identifier (hd.columns c hc) scalar, rfl, ?_⟩
      rw [isAccepted_blockVerdict, EnumValue.blockProblems_eq_nil_iff]

def blockWordTable : Descriptor where
  tableName := .text "Jobs"
  aliasName := "j"
  columns :=
    [{ name := .text "state"
       enumValues := some
         [⟨.text "BEGIN\r\nEND", .null⟩, ⟨.text "it's\u2028if not exiſts", .null⟩,
          ⟨.text "'end ıf;'\nEND", .null⟩] },
     { name := .text "kind"
       enumValues := some [⟨.text "IF NOT'EXISTS", .null⟩, ⟨.text "END IF;", .null⟩] },
     { name := .text "cost"
       enumValues := some [⟨.int (-3), .null⟩, ⟨.bool true, .null⟩, ⟨.text "$$", .null⟩] }]
  constraints :=
    [{ localColumn := .text "kind"
       referencedTable := .text "Kinds"
       referencedColumn := .text "id"
       onDelete := .text "CASCADE" }]
  settings := {}

theorem constraintBlock_verdicts_of_blockWordTable :
    (∃ block verdict, blockWordTable.sqlCreateTableConstraints.outcome = .ok [block] ∧
      (Verifier.unreading.verify (.text block)).outcome = .ok verdict ∧ verdict.isAccepted = true) ∧
    ∃ first second third, blockWordTable.sqlCreateEnumConstraints.outcome =
        .ok [first, second, third] ∧
      (Verifier.unreading.verify (.text first)).outcome = .ok (blockVerdict first []) ∧
      (Verifier.unreading.verify (.text second)).outcome =
        .ok (blockVerdict second [.unbalancedIf]) ∧
      (Verifier.unreading.verify (.text third)).outcome =
        .ok (blockVerdict third [.unbalancedDollarQuotes]) := by
  obtain ⟨⟨keys, answer, length, accepted⟩, blocks, answers, verdicts⟩ :=
    constraintBlock_verdicts .unreading blockWordTable (by decide)
      (by decide)
  constructor
  · obtain ⟨block, rfl⟩ := List.length_eq_one_iff.1 length
    obtain ⟨verdict, verified, passed, -⟩ := accepted block List.mem_cons_self
    exact ⟨block, verdict, answer, verified, passed⟩
  · have all : blockWordTable.columns.filter (fun c => c.enumValues.isSome) =
        blockWordTable.columns := rfl
    rw [all] at verdicts
    obtain ⟨first, _, state, others, rfl⟩ := List.forall₂_cons_left_iff.1 verdicts
    obtain ⟨second, _, kind, last, rfl⟩ := List.forall₂_cons_left_iff.1 others
    obtain ⟨third, _, cost, none, rfl⟩ := List.forall₂_cons_left_iff.1 last
    obtain rfl := List.forall₂_nil_left_iff.1 none
    refine ⟨first, second, third, answers, ?_, ?_, ?_⟩
    · obtain ⟨_, held, judged⟩ := state
      obtain rfl := Option.some.inj held
      obtain ⟨_, verified, rfl, -⟩ := judged (by decide)
      rwa [show EnumValue.blockProblems _ = [] by decide +kernel] at verified
    · obtain ⟨_, held, judged⟩ := kind
      obtain rfl := Option.some.inj held
      obtain ⟨_, verified, rfl, -⟩ := judged (by decide)
      rwa [show EnumValue.blockProblems _ = [.unbalancedIf] by decide +kernel] at verified
    · obtain ⟨_, held, judged⟩ := cost
      obtain rfl := Option.some.inj held
      obtain ⟨_, verified, rfl, -⟩ := judged (by decide)
      rwa [show EnumValue.blockProblems _ = [.unbalancedDollarQuotes] by decide +kernel] at verified

end Descriptor

end TableSchema
