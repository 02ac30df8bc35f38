import TableSchema.Proofs.Descriptor.ShownStatement
import TableSchema.Proofs.Sql.LiteralPart
import TableSchema.Proofs.Validation.KnownOperator
import TableSchema.Proofs.Verification.LiteralMasking
import TableSchema.Proofs.Verification.Verdict

/-!
Filters as a parser is shown them. A text that a filter compares with is part of the statement like
any other: where it looks like a placeholder it is masked and noted as one, so that the parser is
shown another literal than the statement holds.
-/

namespace TableSchema

open Text Verification

section Ends

def EndsSolid (s : String) : Prop :=
  ∃ c, s.toList.getLast? = some c ∧ isBlank c = false

theorem EndsSolid.append (a : String) {b : String} (hb : EndsSolid b) : EndsSolid (a ++ b) := by
  obtain ⟨c, last, solid⟩ := hb
  refine ⟨c, ?_, solid⟩
  rw [String.toList_append, List.getLast?_append, last]
  rfl

theorem endsSolid_of_forall {s : String} (nonempty : s.toList ≠ [])
    (solid : ∀ c ∈ s.toList, isBlank c = false) : EndsSolid s :=
  ⟨_, List.getLast?_eq_some_getLast nonempty, solid _ (List.getLast_mem nonempty)⟩

theorem endsSolid_of_isIdentifier {s : String} (h : IsIdentifier s) : EndsSolid s :=
  endsSolid_of_forall (ne_nil_of_isIdentifier h) fun _ hc =>
    isBlank_of_identifierChar (identifierChar_of_mem h hc)

theorem endsSolid_intercalate (sep : String) {l : List String} (nonempty : l ≠ [])
    (h : ∀ s ∈ l, EndsSolid s) : EndsSolid (sep.intercalate l) := by
  induction l with
  | nil => exact absurd rfl nonempty
  | cons s l ih =>
    obtain ⟨first, others⟩ := List.forall_mem_cons.1 h
    cases l with
    | nil => exact first
    | cons t l =>
      rw [String.intercalate_cons_cons]
      exact (ih (List.cons_ne_nil t l) others).append _

theorem EndsSolid.strip_eq {s : String} (h : EndsSolid s)
    (first : s.toList.head?.any isBlank = false) : strip s = s := by
  obtain ⟨c, last, solid⟩ := h
  refine strip_eq_self first ?_
  rw [last]
  exact solid

theorem isBlank_of_isNumeralChar {c : Char} (h : isNumeralChar c = true) : isBlank c = false := by
  refine forall_ascii (p := fun c => isNumeralChar c = true → isBlank c = false) ?_ c
    (toNat_lt_of_isNumeralChar h) h
  decide

end Ends

section Numbers

theorem Decimal.chars_ne_nil (d : Decimal) : d.chars ≠ [] := by
  unfold chars positional scientific
  dsimp only
  split
  · split
    · simp
    · split <;> simp
  · simp

theorem Binary64.chars_ne_nil (x : Binary64) : x.chars ≠ [] := by
  cases x with
  | nan => exact List.cons_ne_nil _ _
  | infinite negative => simp [chars]
  | finite negative units =>
    have digits : (if units = 0 then ['0', '.', '0'] else (shortest units).chars) ≠ [] := by
      split
      · exact List.cons_ne_nil _ _
      · exact Decimal.chars_ne_nil _
    exact List.append_ne_nil_of_right_ne_nil _ digits

theorem Value.display_ne_nil {value : Value} (number : value.isNumber = true) :
    value.display.toList ≠ [] := by
  cases value with
  | int n =>
    change n.repr.toList ≠ []
    cases n with
    | ofNat n =>
      rw [Int.repr, Nat.toList_repr]
      exact Nat.toDigits_ne_nil
    | negSucc n => simp [Int.repr]
  | float x =>
    change x.text.toList ≠ []
    rw [Binary64.toList_text]
    exact x.chars_ne_nil
  | _ => exact absurd number Bool.false_ne_true

theorem Value.endsSolid_display {value : Value} (number : value.isNumber = true) :
    EndsSolid value.display :=
  endsSolid_of_forall (display_ne_nil number) fun _ hc =>
    isBlank_of_isNumeralChar (isNumeralChar_of_mem_display number hc)

end Numbers

/-- The value as a parser is shown it. -/
def Value.masked : Value → Value
  | text s => text (mask s)
  | value => value

namespace Filter

structure IsPlain (f : Filter) : Prop where
  column : (f.aliasName = .null ∧ f.column.IsIdentifier) ∨ f.aliasName.IsIdentifier
  operator : ∃ operator, f.comparison = .text operator ∧ IsKnown operator
  value : f.value = .null ∨ f.value.isScalar = true

def shown (f : Filter) : Filter :=
  { f with value := f.value.masked }

/-- The names that are read as placeholders from the filter's value. -/
def marks (f : Filter) : List String :=
  f.value.literalTexts.flatMap placeholders

theorem dollar_not_mem_of_isKnown {operator : String} (h : IsKnown operator) :
    '$' ∉ operator.toList := by
  obtain ⟨known, mem, letters⟩ := h
  have checked : ∀ known ∈ knownOperators, '$' ∉ known.toList := by decide
  intro dollar
  exact checked known mem (letters ▸ List.mem_map_of_mem (f := Char.toUpper) dollar)

theorem marks_eq_nil_iff (f : Filter) :
    f.marks = [] ↔ ∀ s, f.value = .text s → ¬ HoldsMark s := by
  unfold marks
  cases f.value with
  | text s => simp [Value.literalTexts, placeholders_eq_nil_iff]
  | _ => simp [Value.literalTexts]

end Filter

namespace Literal

theorem masks_ofFilter {value : Value} (scalar : value.isScalar = true) :
    Masks (ofFilter value) (ofFilter value.masked) (value.literalTexts.flatMap placeholders) := by
  cases value with
  | text s =>
    have marks : (Value.text s).literalTexts.flatMap placeholders = placeholders s :=
      List.flatMap_singleton placeholders s
    rw [marks]
    exact Masks.quote s
  | bool b => cases b <;> exact .plain (by decide)
  | int n =>
    exact .plain fun dollar => absurd (isNumeralChar_of_mem_intRepr dollar) (by decide)
  | float x =>
    exact .plain fun dollar => absurd (Binary64.isNumeralChar_of_mem_text dollar) (by decide)
  | _ => exact absurd scalar Bool.false_ne_true

theorem endsSolid_ofFilter {value : Value} (scalar : value.isScalar = true) :
    EndsSolid (ofFilter value) := by
  cases value with
  | text s =>
    refine ⟨'\'', ?_, by decide⟩
    change (quote s).toList.getLast? = _
    rw [toList_quote, quotedChars, List.getLast?_append]
    rfl
  | bool b => cases b <;> exact ⟨'E', rfl, rfl⟩
  | int n =>
    have shown : EndsSolid (Value.int n).display := Value.endsSolid_display rfl
    exact shown
  | float x =>
    have shown : EndsSolid (Value.float x).display := Value.endsSolid_display rfl
    exact shown
  | _ => exact absurd scalar Bool.false_ne_true

end Literal

namespace Descriptor

open TableSchema.Filter (IsKnown)

variable {d : Descriptor} {f : Filter} {fs : List Filter} {table : String} {given : Value}

section Condition

theorem dollar_not_mem_aliasToColumnName {s : String} (hs : IsIdentifier s) :
    '$' ∉ (d.aliasToColumnName s).toList := by
  unfold aliasToColumnName
  split
  next rest found =>
    have split : s.toList = (d.prefixed "").toList ++ rest :=
      (List.isPrefixOf?_eq_some_iff_append_eq.1 found).symm
    intro dollar
    rw [String.toList_ofList] at dollar
    exact hs.dollar_not_mem (split ▸ List.mem_append_right _ dollar)
  next => exact hs.dollar_not_mem

theorem dollar_not_mem_filterReference (ha : IsIdentifier d.aliasName) (hf : f.IsPlain) :
    '$' ∉ (d.reference (if f.aliasName.isNull then f.column.display
      else d.aliasToColumnName f.aliasName.display)).toList := by
  have name : '$' ∉ (if f.aliasName.isNull then f.column.display
      else d.aliasToColumnName f.aliasName.display).toList := by
    rcases hf.column with ⟨none, s, text, identifier⟩ | ⟨s, text, identifier⟩
    · rw [none, text]
      exact identifier.dollar_not_mem
    · rw [text]
      exact dollar_not_mem_aliasToColumnName identifier
  simp only [reference, String.toList_append, List.mem_append, not_or]
  exact ⟨⟨ha.dollar_not_mem, by decide⟩, name⟩

theorem isRenderable_of_isPlain (hf : f.IsPlain) : f.IsRenderable where
  aliasName := by
    rcases hf.column with ⟨none, -⟩ | ⟨s, text, -⟩
    · exact .inl none
    · exact .inr ⟨s, text⟩
  comparison := by
    obtain ⟨operator, text, -⟩ := hf.operator
    exact fun _ => ⟨operator, text⟩

def testText (operator : String) (value : Value) : String :=
  if value.isNull then nullTest operator else operator ++ " " ++ Literal.ofFilter value

theorem testText_of_isScalar (operator : String) {value : Value} (scalar : value.isScalar = true) :
    testText operator value = operator ++ " " ++ Literal.ofFilter value :=
  if_neg (by simp [Value.isNull_eq_false scalar])

theorem nullTest_cases (operator : String) :
    nullTest operator = "IS NULL" ∨ nullTest operator = "IS NOT NULL" := by
  unfold nullTest
  split
  · exact .inr rfl
  · exact .inl rfl

theorem masks_testText {operator : String} (known : IsKnown operator) {value : Value}
    (scalar : value = .null ∨ value.isScalar = true) :
    Masks (testText operator value) (testText operator value.masked)
      (value.literalTexts.flatMap placeholders) := by
  rcases scalar with rfl | scalar
  · change Masks (nullTest operator) (nullTest operator) []
    rcases nullTest_cases operator with text | text <;> rw [text] <;> exact .plain (by decide)
  · have still : value.masked.isScalar = true := by
      cases value <;> exact scalar
    have head : '$' ∉ (operator ++ " ").toList := by
      rw [String.toList_append, List.mem_append, not_or]
      exact ⟨Filter.dollar_not_mem_of_isKnown known, by decide⟩
    rw [testText_of_isScalar operator scalar, testText_of_isScalar operator still]
    exact (Literal.masks_ofFilter scalar).plain_append head

theorem endsSolid_testText (operator : String) {value : Value}
    (scalar : value = .null ∨ value.isScalar = true) : EndsSolid (testText operator value) := by
  rcases scalar with rfl | scalar
  · change EndsSolid (nullTest operator)
    rcases nullTest_cases operator with text | text <;> rw [text] <;>
      exact ⟨'L', by decide, by decide⟩
  · rw [testText_of_isScalar operator scalar]
    exact (Literal.endsSolid_ofFilter scalar).append _

theorem masks_conditionText (ha : IsIdentifier d.aliasName) (hf : f.IsPlain) :
    Masks (d.conditionText f) (d.conditionText f.shown) f.marks := by
  have column := dollar_not_mem_filterReference ha hf
  obtain ⟨operator, text, known⟩ := hf.operator
  have test : Masks (testText f.comparison.display f.value)
      (testText f.comparison.display f.value.masked) f.marks := by
    rw [text]
    exact masks_testText known hf.value
  refine Masks.plain_append ?_ test
  rw [String.toList_append, List.mem_append, not_or]
  exact ⟨column, by decide⟩

theorem endsSolid_conditionText (hf : f.IsPlain) : EndsSolid (d.conditionText f) :=
  (endsSolid_testText f.comparison.display hf.value).append _

end Condition

section Clause

def clauseText (d : Descriptor) (fs : List Filter) : String :=
  whereText (fs.map d.conditionText)

theorem whereClause_eq_ok (read : Filter.listOf given = .ok fs)
    (plain : ∀ f ∈ fs, f.IsPlain) : d.whereClause given = .ok (d.clauseText fs) := by
  have conditions : fs.mapM d.condition = .ok (fs.map d.conditionText) :=
    mapM_eq_ok_of_forall fun f hf => condition_eq_ok (isRenderable_of_isPlain (plain f hf))
  rw [whereClause, read]
  change (fs.mapM d.condition >>= fun texts => pure (whereText texts)) = _
  rw [conditions]
  rfl

theorem masks_clauseText (ha : IsIdentifier d.aliasName) (plain : ∀ f ∈ fs, f.IsPlain) :
    Masks (d.clauseText fs) (d.clauseText (fs.map Filter.shown)) (fs.flatMap Filter.marks) := by
  unfold clauseText
  rw [List.map_map]
  cases fs with
  | nil => exact .plain (show '$' ∉ "".toList by decide)
  | cons f fs =>
    have conditions := Masks.intercalate (show '$' ∉ " AND ".toList by decide) fun x hx =>
      masks_conditionText ha (plain x hx)
    exact conditions.plain_append (show '$' ∉ " WHERE ".toList by decide)

theorem endsSolid_clauseText (ha : IsIdentifier d.aliasName) (plain : ∀ f ∈ fs, f.IsPlain) :
    EndsSolid (d.aliasName ++ d.clauseText fs) := by
  cases fs with
  | nil =>
    have bare : d.clauseText [] = "" := rfl
    rw [bare, String.append_empty]
    exact endsSolid_of_isIdentifier ha
  | cons f fs =>
    have conditions : EndsSolid (" AND ".intercalate ((f :: fs).map d.conditionText)) := by
      refine endsSolid_intercalate " AND " (by simp) fun s hs => ?_
      obtain ⟨x, hx, rfl⟩ := List.mem_map.1 hs
      exact endsSolid_conditionText (plain x hx)
    exact (conditions.append " WHERE ").append d.aliasName

end Clause

section Statement

theorem masks_deleteText (ht : IsIdentifier table) (ha : IsIdentifier d.aliasName)
    (plain : ∀ f ∈ fs, f.IsPlain) :
    Masks (d.deleteText table (d.clauseText fs))
      (d.deleteText table (d.clauseText (fs.map Filter.shown))) (fs.flatMap Filter.marks) := by
  refine Masks.plain_append ?_ (masks_clauseText ha plain)
  simp only [String.toList_append, List.mem_append, not_or]
  exact ⟨⟨⟨by decide, ht.dollar_not_mem⟩, by decide⟩, ha.dollar_not_mem⟩

theorem dollar_not_mem_columnField (ha : IsIdentifier d.aliasName) {c : Column}
    (hc : c.name.IsIdentifier) (noEnum : c.enumValues = none) (useLabels : Bool) :
    '$' ∉ (d.columnField useLabels c).toList := by
  have field : d.columnField useLabels c =
      d.reference c.name.display ++ " AS " ++ ("\"" ++ d.prefixed c.name.display ++ "\"") := by
    unfold columnField outputName
    cases useLabels <;> simp [noEnum]
  have shown := not_mem_reference ha hc.display (show isIdentifierChar '$' = false by decide)
    (by decide)
  rw [field]
  unfold prefixed
  simp only [String.toList_append, List.mem_append, not_or]
  exact ⟨⟨shown, by decide⟩, ⟨by decide, ⟨ha.dollar_not_mem, by decide⟩, hc.display.dollar_not_mem⟩,
    by decide⟩

theorem masks_selectText (hd : d.HasPlainNames) (ht : IsIdentifier table)
    (ha : IsIdentifier d.aliasName) (noEnums : ∀ c ∈ d.columns, c.enumValues = none)
    (plain : ∀ f ∈ fs, f.IsPlain) (useLabels : Bool) :
    Masks (d.selectText useLabels table (d.clauseText fs))
      (d.selectText useLabels table (d.clauseText (fs.map Filter.shown)))
      (fs.flatMap Filter.marks) := by
  have fields : '$' ∉ (", ".intercalate (d.columnFields true useLabels)).toList := by
    refine not_mem_intercalate (by decide) fun s hs => ?_
    obtain ⟨c, hc, rfl⟩ := List.mem_map.1 hs
    have mem := (List.mem_filter.1 hc).1
    exact dollar_not_mem_columnField ha (hd.columns c mem) (noEnums c mem) useLabels
  refine Masks.plain_append ?_ (masks_clauseText ha plain)
  simp only [String.toList_append, List.mem_append, not_or]
  exact ⟨⟨⟨⟨⟨by decide, fields⟩, by decide⟩, ht.dollar_not_mem⟩, by decide⟩, ha.dollar_not_mem⟩

end Statement

end Descriptor

end TableSchema
