import Mathlib.Algebra.Ring.Nat
import TableSchema.Proofs.Descriptor.ConstraintBlock
import TableSchema.Proofs.Sql.SuppliedText
import TableSchema.Proofs.Text.PhraseCount
import TableSchema.Proofs.Verification.BlockShape

/-!
Conditions opened and closed in the body of a block, counted in upper case as a block is judged.
The body itself opens one and closes one. Names, numbers and keywords hold neither phrase, and
quotes keep apart what the texts of a literal list hold, so those alone can upset the balance.
-/

namespace TableSchema

open Text

def conditionPhrases : List (List Char) :=
  ["IF NOT EXISTS".toList, "END IF;".toList]

/-- How often the phrase occurs in the text in upper case. -/
def upperCount (phrase : List Char) (s : String) : Nat :=
  occurrences phrase (upperChars s.toList)

def IsDivider (p : String) : Prop :=
  ∀ phrase ∈ conditionPhrases, isSeparator phrase (upperChars p.toList) = true

instance (p : String) : Decidable (IsDivider p) :=
  inferInstanceAs (Decidable (∀ phrase ∈ conditionPhrases, _))

def IsQuiet (p : String) : Prop :=
  IsDivider p ∧ ∀ phrase ∈ conditionPhrases, upperCount phrase p = 0

instance (p : String) : Decidable (IsQuiet p) :=
  inferInstanceAs (Decidable (_ ∧ _))

section Pieces

variable {phrase : List Char} {p : String}

theorem blank_mem_of_conditionPhrase : ∀ phrase ∈ conditionPhrases, ' ' ∈ phrase := by decide

theorem upperCount_divided (hp : phrase ∈ conditionPhrases) (h : IsDivider p) (a b : String) :
    upperCount phrase (a ++ (p ++ b)) =
      upperCount phrase a + (upperCount phrase p + upperCount phrase b) := by
  simp only [upperCount, String.toList_append, upperChars_append]
  exact occurrences_separated (h phrase hp) _ _

theorem upperCount_divider_append (hp : phrase ∈ conditionPhrases) (h : IsDivider p) (b : String) :
    upperCount phrase (p ++ b) = upperCount phrase p + upperCount phrase b := by
  simp only [upperCount, String.toList_append, upperChars_append]
  exact occurrences_separator_append (h phrase hp) _

theorem upperCount_around (hp : phrase ∈ conditionPhrases) (h : IsQuiet p) (a b : String) :
    upperCount phrase (a ++ (p ++ b)) = upperCount phrase a + upperCount phrase b := by
  rw [upperCount_divided hp h.1, h.2 phrase hp, Nat.zero_add]

theorem upperCount_word (hp : phrase ∈ conditionPhrases) {s : String}
    (h : ∀ c ∈ s.toList, c.toNat < 128 ∧ c ≠ ' ') : upperCount phrase s = 0 := by
  refine occurrences_eq_zero (blank_mem_of_conditionPhrase phrase hp) fun blank => ?_
  obtain ⟨c, hc, image⟩ := List.mem_flatMap.1 blank
  obtain ⟨ascii, other⟩ := h c hc
  rw [upperChar_of_ascii ascii, List.mem_singleton] at image
  refine other (forall_ascii (p := fun c => ' ' = c.toUpper → c = ' ') ?_ c ascii image)
  decide

theorem upperCount_identifier (hp : phrase ∈ conditionPhrases) {s : String} (h : IsIdentifier s) :
    upperCount phrase s = 0 := by
  refine upperCount_word hp fun c hc => ⟨?_, ?_⟩
  · exact toNat_lt_of_identifierChar (identifierChar_of_mem h hc)
  · rintro rfl
    exact not_mem_of_isIdentifier h (show isIdentifierChar ' ' = false by decide) hc

end Pieces

section Literal

variable {phrase : List Char}

theorem quote_separates : ∀ phrase ∈ conditionPhrases,
    isSeparator phrase ['\''] = true ∧ occurrences phrase ['\''] = 0 := by
  decide

theorem occurrences_quote_append (hp : phrase ∈ conditionPhrases) (cs : List Char) :
    occurrences phrase (['\''] ++ cs) = occurrences phrase cs := by
  obtain ⟨separates, none⟩ := quote_separates phrase hp
  rw [occurrences_separator_append separates, none, Nat.zero_add]

theorem occurrences_append_quote (hp : phrase ∈ conditionPhrases) (before cs : List Char) :
    occurrences phrase (before ++ (['\''] ++ cs)) =
      occurrences phrase before + occurrences phrase cs := by
  obtain ⟨separates, none⟩ := quote_separates phrase hp
  rw [occurrences_separated separates, none, Nat.zero_add]

theorem occurrences_doubleQuotes (hp : phrase ∈ conditionPhrases) (before cs : List Char) :
    occurrences phrase (before ++ upperChars (Literal.doubleQuotes cs)) =
      occurrences phrase (before ++ upperChars cs) := by
  induction cs generalizing before with
  | nil => rfl
  | cons c cs ih =>
    by_cases quote : c = '\''
    · subst quote
      -- behind a quote the count starts afresh, so the induction goes on with nothing before
      have image : upperChar '\'' = ['\''] := rfl
      have inner := ih []
      rw [List.nil_append, List.nil_append] at inner
      rw [Literal.doubleQuotes, if_pos rfl, upperChars_cons, upperChars_cons, upperChars_cons,
        image, occurrences_append_quote hp, occurrences_quote_append hp,
        occurrences_append_quote hp, inner]
    · rw [Literal.doubleQuotes, if_neg quote, upperChars_cons, upperChars_cons,
        ← List.append_assoc, ← List.append_assoc, ih]

theorem upperCount_quote (hp : phrase ∈ conditionPhrases) (s : String) :
    upperCount phrase (Literal.quote s) = upperCount phrase s := by
  have image : upperChars ['\''] = ['\''] := rfl
  have doubled := occurrences_doubleQuotes hp [] s.toList
  have closed := occurrences_append_quote hp (upperChars (Literal.doubleQuotes s.toList)) []
  rw [List.append_nil] at closed
  calc upperCount phrase (Literal.quote s)
    _ = occurrences phrase (['\''] ++ (upperChars (Literal.doubleQuotes s.toList) ++ ['\''])) := by
        rw [upperCount, Literal.toList_quote, Literal.quotedChars, List.cons_append,
          upperChars_cons, upperChars_append, image]
        rfl
    _ = occurrences phrase (upperChars (Literal.doubleQuotes s.toList)) := by
        rw [occurrences_quote_append hp, closed]
        rfl
    _ = upperCount phrase s := doubled

theorem upperCount_number (hp : phrase ∈ conditionPhrases) {value : Value}
    (number : value.isNumber = true) : upperCount phrase value.display = 0 := by
  refine upperCount_word hp fun c hc => ?_
  have numeral := Value.isNumeralChar_of_mem_display number hc
  refine ⟨toNat_lt_of_isNumeralChar numeral, ?_⟩
  rintro rfl
  exact absurd numeral (by decide)

theorem upperCount_ofEnum (hp : phrase ∈ conditionPhrases) {value : Value}
    (scalar : value.isScalar = true) :
    upperCount phrase (Literal.ofEnum value) =
      (value.literalTexts.map (upperCount phrase)).sum := by
  unfold Literal.ofEnum
  split
  next number =>
    rw [upperCount_number hp number]
    cases value with
    | text s => simp [Value.isNumber] at number
    | _ => rfl
  next other =>
    rw [upperCount_quote hp]
    cases value with
    | text s => exact (Nat.add_zero _).symm
    | bool b =>
      revert phrase
      cases b <;> decide
    | int n => exact absurd rfl other
    | float x => exact absurd rfl other
    | _ => simp [Value.isScalar] at scalar

theorem upperCount_intercalate (hp : phrase ∈ conditionPhrases) (l : List String) :
    upperCount phrase (", ".intercalate l) = (l.map (upperCount phrase)).sum := by
  have comma : IsQuiet ", " := by decide
  induction l with
  | nil => rfl
  | cons s l ih =>
    cases l with
    | nil => exact (Nat.add_zero _).symm
    | cons t l =>
      rw [String.intercalate_cons_cons, String.append_assoc, upperCount_around hp comma, ih]
      rfl

def EnumValue.texts (values : List EnumValue) : List String :=
  values.flatMap fun e => e.value.literalTexts

theorem EnumValue.texts_cons (e : EnumValue) (values : List EnumValue) :
    texts (e :: values) = e.value.literalTexts ++ texts values := rfl

def EnumValue.textCount (phrase : List Char) (values : List EnumValue) : Nat :=
  ((texts values).map (upperCount phrase)).sum

theorem upperCount_literals (hp : phrase ∈ conditionPhrases) {values : List EnumValue}
    (scalar : ∀ e ∈ values, e.value.isScalar = true) :
    upperCount phrase (", ".intercalate (values.map fun e => Literal.ofEnum e.value)) =
      EnumValue.textCount phrase values := by
  rw [upperCount_intercalate hp, EnumValue.textCount]
  induction values with
  | nil => rfl
  | cons e values ih =>
    have first := upperCount_ofEnum hp (scalar e List.mem_cons_self)
    have others := ih fun x hx => scalar x (List.mem_cons_of_mem e hx)
    rw [List.map_cons, List.map_cons, List.sum_cons, others, first, EnumValue.texts_cons,
      List.map_append, List.sum_append]

end Literal

namespace Descriptor

section Body

variable {phrase : List Char} {table constraint : String}

def testHead : String :=
  "\n".intercalate
    ["BEGIN",
     "  IF NOT EXISTS (",
     "    SELECT 1 FROM pg_constraint c",
     "    JOIN pg_class t ON c.conrelid = t.oid",
     "    WHERE lower(c.conname) = lower('"]

theorem testHead_counts :
    IsDivider testHead ∧ upperCount "IF NOT EXISTS".toList testHead = 1 ∧
      upperCount "END IF;".toList testHead = 0 := by
  simp only [IsDivider, upperCount, testHead, String.intercalate_cons_cons,
    String.intercalate_singleton, String.toList_append]
  decide +kernel

theorem conditionalBody_eq (table constraint statement : String) :
    conditionalBody table constraint statement =
      testHead ++ (constraint ++ ("') AND t.relname = '" ++ (table ++ ("'\n  ) THEN\n    " ++
        (statement ++ "\n  END IF;\nEND"))))) := by
  have inner : "'\n  ) THEN\n    " = "'" ++ ("\n" ++ ("  ) THEN" ++ ("\n" ++ "    "))) := rfl
  have closing : "\n  END IF;\nEND" = "\n" ++ ("  END IF;" ++ ("\n" ++ "END")) := rfl
  rw [conditionalBody, testHead, inner, closing]
  simp only [String.intercalate_cons_cons, String.intercalate_singleton, String.append_assoc]

theorem upperCount_conditionalBody (hp : phrase ∈ conditionPhrases) (ht : IsIdentifier table)
    (hc : IsIdentifier constraint) {start : String} (opens : IsQuiet (" " ++ start))
    (rest : String) :
    upperCount phrase (conditionalBody table constraint
        (addConstraintText table constraint (start ++ rest))) =
      upperCount phrase testHead + upperCount phrase (rest ++ ";") +
        upperCount phrase "\n  END IF;" := by
  have split : conditionalBody table constraint
      (addConstraintText table constraint (start ++ rest)) =
        testHead ++ (constraint ++ ("') AND t.relname = '" ++ (table ++
          ("'\n  ) THEN\n    ALTER TABLE " ++ (table ++ (" ADD CONSTRAINT " ++ (constraint ++
            ((" " ++ start) ++ ((rest ++ ";") ++ ("\n  END IF;" ++ "\nEND")))))))))) := by
    have alter : "'\n  ) THEN\n    ALTER TABLE " = "'\n  ) THEN\n    " ++ "ALTER TABLE " := rfl
    have closing : "\n  END IF;\nEND" = "\n  END IF;" ++ "\nEND" := rfl
    unfold addConstraintText
    rw [conditionalBody_eq, alter, closing]
    simp only [String.append_assoc]
  have between : IsQuiet "') AND t.relname = '" := by decide
  have alter : IsQuiet "'\n  ) THEN\n    ALTER TABLE " := by decide
  have add : IsQuiet " ADD CONSTRAINT " := by decide
  have closing : IsDivider "\n  END IF;" := by decide
  have last : upperCount phrase "\nEND" = 0 := by
    revert phrase
    decide
  rw [split, upperCount_divider_append hp testHead_counts.1, upperCount_around hp between,
    upperCount_around hp alter, upperCount_around hp add, upperCount_around hp opens,
    upperCount_divided hp closing, upperCount_identifier hp ht, upperCount_identifier hp hc, last]
  omega

theorem isBalanced_conditionalBody (ht : IsIdentifier table) (hc : IsIdentifier constraint)
    {start : String} (opens : IsQuiet (" " ++ start)) (rest : String) :
    Verification.isBalanced (conditionalBody table constraint
        (addConstraintText table constraint (start ++ rest))).toList = true ↔
      upperCount "IF NOT EXISTS".toList (rest ++ ";") =
        upperCount "END IF;".toList (rest ++ ";") := by
  have count (phrase : List Char) (hp : phrase ∈ conditionPhrases) :=
    upperCount_conditionalBody hp ht hc opens rest
  have opened := count "IF NOT EXISTS".toList (by decide)
  have closed := count "END IF;".toList (by decide)
  have closing : upperCount "IF NOT EXISTS".toList "\n  END IF;" = 0 ∧
      upperCount "END IF;".toList "\n  END IF;" = 1 := by decide
  obtain ⟨-, one, none⟩ := testHead_counts
  rw [one, closing.1] at opened
  rw [none, closing.2] at closed
  rw [Verification.isBalanced, beq_iff_eq]
  unfold upperCount at opened closed ⊢
  omega

theorem isBalanced_enumBody (ht : IsIdentifier table) {column : Value}
    (hn : column.IsIdentifier) {values : List EnumValue}
    (scalar : ∀ e ∈ values, e.value.isScalar = true) :
    Verification.isBalanced (conditionalBody table (enumConstraintName table column)
        (addConstraintText table (enumConstraintName table column)
          (enumCheck column values))).toList = true ↔
      EnumValue.textCount "IF NOT EXISTS".toList values =
        EnumValue.textCount "END IF;".toList values := by
  have name := isIdentifier_enumConstraintName ht hn
  have opens : IsQuiet (" " ++ "CHECK (") := by decide
  have clause : enumCheck column values =
      "CHECK (" ++ (column.display ++ (" IN (" ++
        (", ".intercalate (values.map fun e => Literal.ofEnum e.value) ++ "))"))) := by
    simp only [enumCheck, String.append_assoc]
  have rest (phrase : List Char) (hp : phrase ∈ conditionPhrases) :
      upperCount phrase (column.display ++ (" IN (" ++
        (", ".intercalate (values.map fun e => Literal.ofEnum e.value) ++ "))")) ++ ";") =
          EnumValue.textCount phrase values := by
    have list : IsQuiet " IN (" := by decide
    have closing : IsQuiet "))" := by decide
    have last : upperCount phrase ";" = 0 := by
      revert phrase
      decide
    simp only [String.append_assoc]
    rw [upperCount_around hp list, upperCount_around hp closing,
      upperCount_identifier hp hn.display, upperCount_literals hp scalar, last]
    omega
  rw [clause, isBalanced_conditionalBody ht name opens, rest _ (by decide), rest _ (by decide)]

def actionTexts (event : String) : List String :=
  "" :: ForeignKey.knownActions.map fun action => " ON " ++ event ++ " " ++ action

theorem actionText_mem_actionTexts (event : String) {action : Value}
    (h : ForeignKey.IsAction action) : actionText event action ∈ actionTexts event := by
  have known : ∀ s ∈ ForeignKey.knownActions, s ≠ "" := by decide
  rcases h with rfl | ⟨s, mem, rfl⟩
  · exact List.mem_cons_self
  · have written : actionText event (.text s) = " ON " ++ event ++ " " ++ s := by
      simp [actionText, Value.isTrue, known s mem]
    rw [written]
    exact List.mem_cons_of_mem _ (List.mem_map_of_mem mem)

theorem occurrences_actionTexts : ∀ delete ∈ actionTexts "DELETE",
    ∀ update ∈ actionTexts "UPDATE", ∀ phrase ∈ conditionPhrases,
      occurrences phrase (upperChars (delete.toList ++ (update.toList ++ ";".toList))) = 0 := by
  decide +kernel

theorem upperCount_actions (hp : phrase ∈ conditionPhrases) {fk : ForeignKey}
    (hfk : fk.HasPlainNames) :
    upperCount phrase (actionText "DELETE" fk.onDelete ++
      (actionText "UPDATE" fk.onUpdate ++ ";")) = 0 := by
  rw [upperCount, String.toList_append, String.toList_append]
  exact occurrences_actionTexts _ (actionText_mem_actionTexts "DELETE" hfk.onDelete)
    _ (actionText_mem_actionTexts "UPDATE" hfk.onUpdate) phrase hp

theorem isBalanced_foreignKeyBody (ht : IsIdentifier table) {fk : ForeignKey}
    (hfk : fk.HasPlainNames) {referenced : String} (hr : IsIdentifier referenced) :
    Verification.isBalanced (conditionalBody table (foreignKeyConstraintName table fk)
        (addConstraintText table (foreignKeyConstraintName table fk)
          (foreignKeyClause fk referenced))).toList = true := by
  have name := isIdentifier_foreignKeyConstraintName ht hfk
  have opens : IsQuiet (" " ++ "FOREIGN KEY (") := by decide
  have clause : foreignKeyClause fk referenced =
      "FOREIGN KEY (" ++ (fk.localColumn.display ++ (") REFERENCES " ++ (referenced ++
        ("(" ++ (fk.referencedColumn.display ++ (")" ++ (actionText "DELETE" fk.onDelete ++
          actionText "UPDATE" fk.onUpdate))))))) := by
    unfold foreignKeyClause
    simp only [String.append_assoc]
  have rest (phrase : List Char) (hp : phrase ∈ conditionPhrases) :
      upperCount phrase (fk.localColumn.display ++ (") REFERENCES " ++ (referenced ++
        ("(" ++ (fk.referencedColumn.display ++ (")" ++ (actionText "DELETE" fk.onDelete ++
          actionText "UPDATE" fk.onUpdate)))))) ++ ";") = 0 := by
    have references : IsQuiet ") REFERENCES " := by decide
    have bracket : IsQuiet "(" := by decide
    have closing : IsQuiet ")" := by decide
    simp only [String.append_assoc]
    rw [upperCount_around hp references, upperCount_around hp bracket,
      upperCount_around hp closing, upperCount_actions hp hfk,
      upperCount_identifier hp hfk.localColumn.display, upperCount_identifier hp hr,
      upperCount_identifier hp hfk.referencedColumn.display]
  rw [clause, isBalanced_conditionalBody ht name opens, rest _ (by decide), rest _ (by decide)]

end Body

end Descriptor

end TableSchema
