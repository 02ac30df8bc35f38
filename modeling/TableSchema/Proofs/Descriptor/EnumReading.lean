import TableSchema.Proofs.Descriptor.ConditionCount
import TableSchema.Proofs.Sql.ReadBack
import TableSchema.Proofs.Validation.ShadowedArm

/-!
Enum values read back from the statements that hold them. The list of a check and the arms of a
`CASE` expression are rendered apart from each other, and both tell all of the values, their kinds
and their order, whatever the texts among them hold.
-/

namespace TableSchema

namespace Text

variable {mark a : List Char}

def textAfter? (mark : List Char) : List Char → Option (List Char)
  | [] => dropChars? mark []
  | c :: cs => (dropChars? mark (c :: cs)).or (textAfter? mark cs)

theorem textAfter?_of_dropChars? {cs rest : List Char} (h : dropChars? mark cs = some rest) :
    textAfter? mark cs = some rest := by
  cases cs with
  | nil => exact h
  | cons c cs => rw [textAfter?, h, Option.some_or]

theorem dropChars?_of_not_prefix {cs : List Char} (h : ¬ mark.isPrefixOf cs = true) :
    dropChars? mark cs = none := by
  rw [← List.isSome_isPrefixOf?_eq_isPrefixOf] at h
  exact Option.not_isSome_iff_eq_none.1 h

theorem textAfter?_append (apart : isSeparator mark mark = true) (absent : occurrences mark a = 0)
    (rest : List Char) : textAfter? mark (a ++ (mark ++ rest)) = some rest := by
  induction a with
  | nil => exact textAfter?_of_dropChars? (Verification.dropChars?_append mark rest)
  | cons c a ih =>
    rw [occurrences, occurrencesFrom] at absent
    split at absent
    next => omega
    next other =>
      rw [← isPrefixOf_append (not_straddles_before apart (c :: a) rest), List.cons_append] at other
      rw [List.cons_append, textAfter?, dropChars?_of_not_prefix other, Option.none_or]
      exact ih absent

theorem capitalI_not_mem_lower (s : String) : 'I' ∉ (lower s).toList := by
  rw [lower, String.toList_ofList]
  intro mem
  rcases mem_lowerFrom mem with final | medial | ⟨a, -, image⟩
  · exact absurd final (by decide)
  · exact absurd medial (by decide)
  · rcases eq_of_mem_lowerChar image (by decide) with ⟨ascii, small⟩ | ⟨-, dotted⟩ | ⟨-, kelvin⟩
    · refine forall_ascii (p := fun a => 'I' ≠ a.toLower) ?_ a ascii small
      decide
    · exact absurd dotted (by decide)
    · exact absurd kelvin (by decide)

end Text

namespace Sql

variable {first : Char} {mark : List Char} {value : Value} {values : List Value}

theorem constant?_ofEnum (h : value.IsTextOrInt) :
    constant? (Literal.ofEnum value) = some value := by
  cases value with
  | text s => exact constant?_quote s
  | int n => exact constant?_intRepr n
  | _ => exact h.elim

theorem passed_ofEnum (h : value.IsTextOrInt) (noQuote : first ≠ '\'')
    (noNumeral : ¬ isNumeralChar first = true) :
    Passed (first :: mark) (Literal.ofEnum value).toList := by
  cases value with
  | text s => exact passed_quote noQuote s
  | int n =>
    refine passed_of_plain ?_ ?_
    · exact Value.quote_not_mem_display (show (Value.int n).isNumber = true from rfl)
    · exact fun mem => noNumeral (isNumeralChar_of_mem_intRepr mem)
  | _ => exact h.elim

theorem ofEnum_ne_nil (h : value.IsTextOrInt) : (Literal.ofEnum value).toList ≠ [] := by
  cases value with
  | text s => simp [Literal.ofEnum, Value.isNumber, Literal.quotedChars]
  | int n =>
    obtain ⟨c, rest, split, -⟩ := (Text.isNumber_intRepr n).start
    exact split ▸ List.cons_ne_nil c rest
  | _ => exact h.elim

theorem constants?_ofEnum (h : ∀ value ∈ values, value.IsTextOrInt) :
    constants? (values.map fun value => (Literal.ofEnum value).toList) = some values := by
  induction values with
  | nil => rfl
  | cons value values ih =>
    obtain ⟨here, later⟩ := List.forall_mem_cons.1 h
    have rest := ih later
    rw [constants?] at rest ⊢
    rw [List.map_cons, List.mapM_cons, String.ofList_toList, constant?_ofEnum here, rest]
    rfl

theorem values?_ofEnum (h : ∀ value ∈ values, value.IsTextOrInt) :
    values? (", ".intercalate (values.map Literal.ofEnum)) = some values := by
  have nonempty : ∀ s ∈ values.map Literal.ofEnum, s.toList ≠ [] :=
    List.forall_mem_map.2 fun value held => ofEnum_ne_nil (h value held)
  have passed : ∀ s ∈ values.map Literal.ofEnum, Passed ", ".toList s.toList :=
    List.forall_mem_map.2 fun value held => passed_ofEnum (h value held) (by decide) (by decide)
  rw [values?, items_intercalate (by decide) nonempty passed, List.map_map]
  exact constants?_ofEnum h

def listMark : List Char :=
  ['I', 'N', ' ', '(']

/-- The list of a check: what stands behind the first mark that opens one, up to the brackets and
the semicolon that close it outside of literals. -/
def checkList? (block : String) : Option String :=
  (Text.textAfter? listMark block.toList).map fun cs =>
    String.ofList (cutAt "));".toList false cs).1

/-- The literal that the next arm compares with, and what follows the arm. -/
def nextArm? (ref : String) (cs : List Char) : Option (List Char × List Char) := do
  let arm ← Text.dropChars? ("WHEN " ++ ref ++ " = ").toList cs
  let label ← Text.dropChars? " THEN ".toList (cutAt [' '] false arm).2
  return ((cutAt [' '] false arm).1, (cutAt [' '] false label).2.drop 1)

def armValues? (ref expression : String) : Option (List Value) := do
  let arms ← Text.dropChars? "CASE ".toList expression.toList
  constants? (readParts (nextArm? ref) arms)

section Arms

variable {ref : String} {arm : CaseArm} {arms : List CaseArm} {tail : List Char}

def IsPassedArm (arm : CaseArm) : Prop :=
  Passed [' '] arm.literal.toList ∧ Passed [' '] arm.label.toList

theorem nextArm?_text (h : IsPassedArm arm) (tail : List Char) :
    nextArm? ref ((arm.text ref).toList ++ ([' '] ++ tail)) = some (arm.literal.toList, tail) := by
  have split : (arm.text ref).toList ++ ([' '] ++ tail) = ("WHEN " ++ ref ++ " = ").toList ++
      (arm.literal.toList ++ (" THEN ".toList ++ (arm.label.toList ++ ([' '] ++ tail)))) := by
    simp only [CaseArm.text, String.toList_append, List.append_assoc]
  have literal (rest : List Char) :
      cutAt [' '] false (arm.literal.toList ++ (" THEN ".toList ++ rest)) =
        (arm.literal.toList, " THEN ".toList ++ rest) :=
    h.1.cutAt_eq (List.cons_ne_nil _ _) ("THEN ".toList ++ rest)
  rw [nextArm?, split, Verification.dropChars?_append, Option.bind_eq_bind, Option.bind_some,
    literal, Verification.dropChars?_append, Option.bind_some,
    h.2.cutAt_eq (List.cons_ne_nil _ _)]
  rfl

theorem readParts_arms (h : ∀ arm ∈ arms, IsPassedArm arm) (stop : nextArm? ref tail = none) :
    readParts (nextArm? ref) (arms.flatMap (fun arm => (arm.text ref).toList ++ [' ']) ++ tail) =
      arms.map fun arm => arm.literal.toList := by
  induction arms with
  | nil => exact readParts_of_none stop
  | cons arm arms ih =>
    obtain ⟨here, later⟩ := List.forall_mem_cons.1 h
    rw [List.flatMap_cons, List.append_assoc, List.append_assoc,
      readParts_of_some (nextArm?_text here _), ih later]
    · rfl
    · simp only [List.length_append, List.length_singleton]
      omega

theorem intercalate_append_blank (s : String) (l : List String) :
    (" ".intercalate (s :: l)).toList ++ [' '] = (s :: l).flatMap (·.toList ++ [' ']) := by
  induction l generalizing s with
  | nil => simp
  | cons t l ih =>
    rw [String.intercalate_cons_cons, String.toList_append, List.append_assoc, ih]
    simp

theorem nextArm?_of_ne {c : Char} (h : 'W' ≠ c) (cs : List Char) :
    nextArm? ref (c :: cs) = none := by
  have other : Text.dropChars? ("WHEN " ++ ref ++ " = ").toList (c :: cs) = none := by
    refine Text.dropChars?_of_not_prefix ?_
    simp [h]
  rw [nextArm?, other]
  rfl

theorem armValues?_expression (h : ∀ arm ∈ arms, IsPassedArm arm) :
    armValues? ref (CaseArm.expression ref arms) =
      constants? (arms.map fun arm => arm.literal.toList) := by
  have ending : " ELSE 'Value \"' || ".toList = [' '] ++ "ELSE 'Value \"' || ".toList := rfl
  have whole : (CaseArm.expression ref arms).toList = "CASE ".toList ++
      ((" ".intercalate (arms.map (CaseArm.text ref))).toList ++ ([' '] ++
        ("ELSE 'Value \"' || ".toList ++ (ref.toList ++ " || '\"' END".toList)))) := by
    simp only [CaseArm.expression, String.toList_append, List.append_assoc, ending]
  rw [armValues?, whole, Verification.dropChars?_append, Option.bind_eq_bind, Option.bind_some]
  apply congrArg constants?
  cases arms with
  | nil => exact readParts_of_none (nextArm?_of_ne (by decide) _)
  | cons arm arms =>
    rw [← List.append_assoc, List.map_cons, intercalate_append_blank, ← List.map_cons,
      List.flatMap_map]
    exact readParts_arms h (nextArm?_of_ne (by decide) _)

end Arms

section Check

variable {table : String} {column : Value} {es : List EnumValue}

def checkHead (table : String) (column : Value) : String :=
  let constraint := Descriptor.enumConstraintName table column
  "DO $$\n" ++ (Descriptor.testHead ++ (constraint ++ ("') AND t.relname = '" ++ (table ++
    ("'\n  ) THEN\n    ALTER TABLE " ++ (table ++ (" ADD CONSTRAINT " ++ (constraint ++
      (" CHECK (" ++ (column.display ++ " "))))))))))

theorem toList_enumConstraintBlock (table : String) (column : Value) (es : List EnumValue) :
    (Descriptor.enumConstraintBlock table column es).toList =
      (checkHead table column).toList ++ (listMark ++
        ((", ".intercalate (es.map fun e => Literal.ofEnum e.value)).toList ++
          ("));".toList ++ "\n  END IF;\nEND\n$$;".toList))) := by
  have alter : "'\n  ) THEN\n    ALTER TABLE ".toList =
      "'\n  ) THEN\n    ".toList ++ "ALTER TABLE ".toList := rfl
  have check : " CHECK (".toList = " ".toList ++ "CHECK (".toList := rfl
  have list : " IN (".toList = " ".toList ++ listMark := rfl
  have close : "));".toList = "))".toList ++ ";".toList := rfl
  have last : "\n  END IF;\nEND\n$$;".toList =
      "\n  END IF;\nEND".toList ++ ("\n".toList ++ "$$;".toList) := rfl
  unfold Descriptor.enumConstraintBlock Descriptor.addConstraintText Descriptor.enumCheck checkHead
  rw [Descriptor.conditionalBlock_eq, toList_delimited, Descriptor.conditionalBody_eq]
  simp only [String.toList_append, List.append_assoc, alter, check, list, close, last]

def IsApart (p : String) : Prop :=
  Text.isSeparator listMark p.toList = true ∧ Text.occurrences listMark p.toList = 0

instance (p : String) : Decidable (IsApart p) :=
  inferInstanceAs (Decidable (_ ∧ _))

theorem occurrences_apart_append {p : String} (h : IsApart p) (cs : List Char) :
    Text.occurrences listMark (p.toList ++ cs) = Text.occurrences listMark cs := by
  rw [Text.occurrences_separator_append h.1, h.2, Nat.zero_add]

theorem occurrences_table_append (ht : 'I' ∉ table.toList) (cs : List Char) :
    Text.occurrences listMark (table.toList ++ cs) = Text.occurrences listMark cs :=
  Text.occurrences_append_of_not_mem ht cs

theorem occurrences_constraint_append (ht : 'I' ∉ table.toList)
    (hc : Text.IsIdentifier column.display) {p : String} (h : IsApart p) (cs : List Char) :
    Text.occurrences listMark
        ((Descriptor.enumConstraintName table column).toList ++ (p.toList ++ cs)) =
      Text.occurrences listMark cs := by
  have blank : ' ' ∉ (column.display ++ "_enum_chk").toList := by
    rw [String.toList_append, List.mem_append, not_or]
    exact ⟨Text.not_mem_of_isIdentifier hc (by decide), by decide⟩
  have name : (Descriptor.enumConstraintName table column).toList ++ (p.toList ++ cs) =
      table.toList ++ ("_".toList ++ ((column.display ++ "_enum_chk").toList ++
        (p.toList ++ cs))) := by
    simp only [Descriptor.enumConstraintName, String.toList_append, List.append_assoc]
  rw [name, occurrences_table_append ht, occurrences_apart_append (by decide),
    Text.occurrences_separated h.1, Text.occurrences_eq_zero (by decide) blank, h.2,
    Nat.zero_add, Nat.zero_add]

theorem occurrences_checkHead (ht : 'I' ∉ table.toList) (hc : Text.IsIdentifier column.display) :
    Text.occurrences listMark (checkHead table column).toList = 0 := by
  have bracket : '(' ∉ (column.display ++ " ").toList := by
    rw [String.toList_append, List.mem_append, not_or]
    exact ⟨Text.not_mem_of_isIdentifier hc (by decide), by decide⟩
  have test : IsApart Descriptor.testHead := by
    simp only [IsApart, Descriptor.testHead, String.intercalate_cons_cons,
      String.intercalate_singleton, String.toList_append]
    decide +kernel
  have split : (checkHead table column).toList =
      "DO $$\n".toList ++ (Descriptor.testHead.toList ++
        ((Descriptor.enumConstraintName table column).toList ++ ("') AND t.relname = '".toList ++
          (table.toList ++ ("'\n  ) THEN\n    ALTER TABLE ".toList ++ (table.toList ++
            (" ADD CONSTRAINT ".toList ++
              ((Descriptor.enumConstraintName table column).toList ++ (" CHECK (".toList ++
                (column.display ++ " ").toList))))))))) := by
    simp only [checkHead, String.toList_append]
  rw [split, occurrences_apart_append (by decide), occurrences_apart_append test,
    occurrences_constraint_append ht hc (by decide), occurrences_table_append ht,
    occurrences_apart_append (by decide), occurrences_table_append ht,
    occurrences_apart_append (by decide), occurrences_constraint_append ht hc (by decide),
    Text.occurrences_eq_zero (by decide) bracket]

theorem checkList?_enumConstraintBlock (ht : 'I' ∉ table.toList)
    (hc : Text.IsIdentifier column.display) (plain : ∀ e ∈ es, e.value.IsTextOrInt) :
    checkList? (Descriptor.enumConstraintBlock table column es) =
      some (", ".intercalate (es.map fun e => Literal.ofEnum e.value)) := by
  have passed : Passed "));".toList
      (", ".intercalate (es.map fun e => Literal.ofEnum e.value)).toList := by
    refine passed_intercalate (by decide) (by decide) (List.forall_mem_map.2 fun e held => ?_)
    exact passed_ofEnum (plain e held) (by decide) (by decide)
  rw [checkList?, toList_enumConstraintBlock,
    Text.textAfter?_append (by decide) (occurrences_checkHead ht hc), Option.map_some,
    passed.cutAt_eq (by decide), String.ofList_toList]

end Check

end Sql

namespace Descriptor

open Sql

structure ReadsBack (d : Descriptor) (c : Column) (es : List EnumValue) (block : String) :
    Prop where
  check : (checkList? block).bind values? = some (es.map EnumValue.value)
  arms : armValues? (d.reference c.name.display) (d.enumExpression c.name es) =
    some (es.map EnumValue.value)

theorem armValues?_enumExpression (d : Descriptor) (column : Value) {es : List EnumValue}
    (plain : ∀ e ∈ es, e.value.IsTextOrInt) :
    armValues? (d.reference column.display) (d.enumExpression column es) =
      some (es.map EnumValue.value) := by
  have passed : ∀ arm ∈ es.map EnumValue.arm, IsPassedArm arm := by
    refine List.forall_mem_map.2 fun e held => ?_
    constructor
    · exact passed_ofEnum (plain e held) (by decide) (by decide)
    · exact passed_quote (by decide) _
  have literals := constants?_ofEnum (List.forall_mem_map.2 plain)
  rw [List.map_map] at literals
  rw [enumExpression_eq_expression, armValues?_expression passed, List.map_map]
  exact literals

theorem readsBack (d : Descriptor) {c : Column} {es : List EnumValue} {name : String}
    (hc : Text.IsIdentifier c.name.display) (plain : ∀ e ∈ es, e.value.IsTextOrInt) :
    ReadsBack d c es (enumConstraintBlock (Text.lower name) c.name es) := by
  have list := values?_ofEnum (List.forall_mem_map.2 plain)
  rw [List.map_map] at list
  constructor
  · rw [checkList?_enumConstraintBlock (Text.capitalI_not_mem_lower name) hc plain]
    exact list
  · exact armValues?_enumExpression d c.name plain

/-- What is rendered of enum values, filter values and defaults reads back: the values of a column
from its block as from its `CASE` expression, any other value from its literal. -/
theorem values_readBack (d : Descriptor) {name : String} (named : d.tableName = .text name) :
    (∃ blocks, d.sqlCreateEnumConstraints.outcome = .ok blocks ∧
      List.Forall₂
        (fun c block => ∀ es, c.enumValues = some es → Text.IsIdentifier c.name.display →
          (∀ e ∈ es, e.value.IsTextOrInt) → ReadsBack d c es block)
        (d.columns.filter fun c => c.enumValues.isSome) blocks) ∧
    (∀ v : Value, v.IsExact → constant? (Literal.ofFilter v) = some v ∧
      constant? (Literal.ofDefault v) = some v) ∧
    ∀ v w : Value, v.IsExact → w.IsExact → v ≠ w →
      Literal.ofFilter v ≠ Literal.ofFilter w ∧ Literal.ofDefault v ≠ Literal.ofDefault w := by
  refine ⟨⟨d.enumConstraintBlocks (Text.lower name), ?_, ?_⟩, fun v hv => ?_,
    fun v w hv hw other => ?_⟩
  · rw [sqlCreateEnumConstraints_eq (sqlName_eq named)]
  · refine enumConstraintBlocks_forall₂ d (Text.lower name) fun c _ values held es given => ?_
    obtain rfl := Option.some.inj (held.symm.trans given)
    exact readsBack d
  · exact ⟨constant?_ofFilter hv, constant?_ofDefault hv⟩
  · constructor
    · exact fun same => other (eq_of_constant? (constant?_ofFilter hv) (constant?_ofFilter hw) same)
    · exact fun same =>
        other (eq_of_constant? (constant?_ofDefault hv) (constant?_ofDefault hw) same)

def bracketValues : List EnumValue :=
  [⟨.text "a', 'b", .text "x THEN y"⟩, ⟨.text "));", .null⟩, ⟨.int (-7), .null⟩,
    ⟨.text "-7", .text "it's"⟩]

def bracketTable : Descriptor where
  tableName := .text "Values IN ("
  aliasName := "v = 1 "
  columns := [{ name := .text "IN", enumValues := some bracketValues }]
  settings := {}

theorem values_readBack_of_bracketTable :
    ∃ block, bracketTable.sqlCreateEnumConstraints.outcome = .ok [block] ∧
      (checkList? block).bind values? =
        some [.text "a', 'b", .text "));", .int (-7), .text "-7"] ∧
      armValues? "v = 1 .IN" (bracketTable.enumExpression (.text "IN") bracketValues) =
        some [.text "a', 'b", .text "));", .int (-7), .text "-7"] := by
  obtain ⟨⟨blocks, answer, reads⟩, -⟩ := values_readBack bracketTable rfl
  have one : bracketTable.columns.filter (fun c => c.enumValues.isSome) =
      bracketTable.columns := rfl
  rw [one] at reads
  cases reads with
  | @cons _ block _ _ column none =>
    cases none
    have plain : ∀ e ∈ bracketValues, e.value.IsTextOrInt := by
      simp [bracketValues, Value.IsTextOrInt]
    have read := column bracketValues rfl (by decide) plain
    exact ⟨block, answer, read.check, read.arms⟩

end Descriptor

end TableSchema
