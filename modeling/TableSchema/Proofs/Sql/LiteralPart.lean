import TableSchema.Proofs.Sql.Parallel
import TableSchema.Proofs.Sql.SuppliedText
import TableSchema.Proofs.Text.Lowering
import TableSchema.Proofs.Text.Numeral

/-!
The parts of a statement that values stand in: defaults, filter values, and the arms of `CASE`
expressions. Rendered from descriptions of one form, each comes out parallel.
-/

namespace TableSchema

open Sql

namespace Value

theorem quote_not_mem_display {value : Value} (number : value.isNumber = true) :
    '\'' ∉ value.display.toList := by
  intro mem
  exact absurd (isNumeralChar_of_mem_display number mem) (by decide)

theorem isNull_eq_false {value : Value} (scalar : value.isScalar = true) :
    value.isNull = false := by
  cases value with
  | null => simp [isScalar] at scalar
  | _ => rfl

theorem IsQuoteFree.display {value : Value} (h : value.IsQuoteFree) :
    '\'' ∉ value.display.toList := by
  obtain ⟨s, rfl, free⟩ := h
  exact free

end Value

namespace Literal

variable {v w : Value}

theorem parallel_quote (s t : String) :
    Parallel (quote s).toList (quote t).toList [s] [t] := by
  have both := Parallel.literal s.toList t.toList
  rwa [String.ofList_toList, String.ofList_toList, ← toList_quote, ← toList_quote] at both

theorem parallel_of_quoting {render : Value → String} (texts : ∀ s, render (.text s) = quote s)
    (bools : ∀ b, '\'' ∉ (render (.bool b)).toList)
    (ints : ∀ n, render (.int n) = (Value.int n).display)
    (floats : ∀ x, render (.float x) = (Value.float x).display)
    (hv : v.isScalar = true) (form : v.SameForm w) :
    Parallel (render v).toList (render w).toList v.literalTexts w.literalTexts := by
  rcases form with rfl | ⟨⟨s, rfl⟩, t, rfl⟩
  · cases v with
    | text s =>
      rw [texts]
      exact parallel_quote s s
    | bool b => exact Parallel.plain (bools b)
    | int n =>
      rw [ints]
      exact Parallel.plain (Value.quote_not_mem_display rfl)
    | float x =>
      rw [floats]
      exact Parallel.plain (Value.quote_not_mem_display rfl)
    | _ => simp [Value.isScalar] at hv
  · rw [texts, texts]
    exact parallel_quote s t

theorem parallel_ofDefault (hv : v.isScalar = true) (form : v.SameForm w) :
    Parallel (ofDefault v).toList (ofDefault w).toList v.literalTexts w.literalTexts :=
  parallel_of_quoting (fun _ => rfl) (by decide) (fun _ => rfl) (fun _ => rfl) hv form

theorem parallel_ofFilter (hv : v.isScalar = true) (form : v.SameForm w) :
    Parallel (ofFilter v).toList (ofFilter w).toList v.literalTexts w.literalTexts :=
  parallel_of_quoting (fun _ => rfl) (by decide) (fun _ => rfl) (fun _ => rfl) hv form

variable {e f : EnumValue}

theorem ofEnum_eq_quote (scalar : e.value.isScalar = true) (h : e.value.isNumber = false) :
    ∃ s, ofEnum e.value = quote s ∧ e.literalTexts = [s] := by
  obtain ⟨value, label⟩ := e
  cases value with
  | text s => exact ⟨s, rfl, rfl⟩
  | bool b => cases b <;> exact ⟨_, rfl, rfl⟩
  | int n => simp [Value.isNumber] at h
  | float x => simp [Value.isNumber] at h
  | _ => simp [Value.isScalar] at scalar

theorem literalTexts_of_isNumber (h : e.value.isNumber = true) : e.literalTexts = [] := by
  obtain ⟨value, label⟩ := e
  cases value with
  | int n => rfl
  | float x => rfl
  | _ => simp [Value.isNumber] at h

theorem parallel_ofEnum (he : e.Quotable) (hf : f.Quotable) (form : e.SameForm f) :
    Parallel (ofEnum e.value).toList (ofEnum f.value).toList e.literalTexts f.literalTexts := by
  have quoted (h : e.value.isNumber = false) (h' : f.value.isNumber = false) :
      Parallel (ofEnum e.value).toList (ofEnum f.value).toList e.literalTexts f.literalTexts := by
    obtain ⟨s, hs, texts⟩ := ofEnum_eq_quote he.value h
    obtain ⟨t, ht, texts'⟩ := ofEnum_eq_quote hf.value h'
    rw [hs, ht, texts, texts']
    exact parallel_quote s t
  rcases form with same | ⟨h, h'⟩
  · cases number : e.value.isNumber with
    | false => exact quoted number (same ▸ number)
    | true =>
      rw [literalTexts_of_isNumber number, literalTexts_of_isNumber (same ▸ number), ← same,
        ofEnum, if_pos number]
      exact Parallel.plain (Value.quote_not_mem_display number)
  · exact quoted h h'

theorem ofLabel_eq_quote (he : e.Quotable) :
    ofLabel e.value e.label = quote e.labelText := by
  rcases he.label with label | ⟨s, label⟩
  · simp [ofLabel, EnumValue.labelText, label, Value.isTrue]
  · by_cases empty : s = ""
    · simp [ofLabel, EnumValue.labelText, label, Value.isTrue, empty]
    · simp [ofLabel, EnumValue.labelText, label, Value.isTrue, empty]

end Literal

namespace Column

variable {c c' : Column}

def defaultClause (c : Column) : String :=
  if c.defaultValue.isNull then "" else " DEFAULT " ++ Literal.ofDefault c.defaultValue

theorem SameForm.name (h : c.SameForm c') : c'.name = c.name := by
  have names := congrArg Column.name h.bare
  exact names

theorem SameForm.enumValues_cases (h : c.SameForm c') :
    (c.enumValues = none ∧ c'.enumValues = none) ∨ ∃ es fs, c.enumValues = some es ∧
      c'.enumValues = some fs ∧ List.Forall₂ EnumValue.SameForm es fs := by
  have values := h.values
  generalize c.enumValues = left at values
  generalize c'.enumValues = right at values
  cases values with
  | none => exact .inl ⟨rfl, rfl⟩
  | some alike => exact .inr ⟨_, _, rfl, rfl, alike⟩

theorem parallel_defaultClause (hc : c.IsQuoteFree) (form : c.SameForm c') :
    Parallel c.defaultClause.toList c'.defaultClause.toList c.defaultTexts c'.defaultTexts := by
  have default := form.default
  unfold defaultClause defaultTexts
  rcases hc.default with null | scalar
  · rw [null] at default
    rcases default with same | ⟨⟨s, text⟩, -⟩
    · rw [null, ← same]
      exact Parallel.plain List.not_mem_nil
    · simp at text
  · have present := Value.isNull_eq_false scalar
    have present' : c'.defaultValue.isNull = false := by
      rcases default with same | ⟨-, t, text⟩
      · rwa [← same]
      · rw [text]
        rfl
    rw [if_neg (by simp [present]), if_neg (by simp [present']), String.toList_append,
      String.toList_append]
    exact (Literal.parallel_ofDefault scalar default).plain_append (by decide)

end Column

namespace Descriptor

variable {d d' : Descriptor} {c c' : Column}

theorem columnDefinition_eq_append (d : Descriptor) (c : Column) :
    d.columnDefinition c = d.columnDefinition c.bare ++ c.defaultClause := by
  have noDefault : (if c.bare.defaultValue.isNull then ""
      else " DEFAULT " ++ Literal.ofDefault c.bare.defaultValue) = "" := rfl
  unfold columnDefinition Column.defaultClause
  rw [noDefault, String.append_empty]
  rfl

theorem quote_not_mem_columnDefinition_bare (hd : d.IsQuoteFree) (hc : c.IsQuoteFree) :
    '\'' ∉ (d.columnDefinition c.bare).toList := by
  have name : '\'' ∉ c.name.display.toList := hc.name.display
  have type : '\'' ∉ (d.sqlType c.bare).toList := by
    unfold sqlType
    split
    · rcases hc.sqlType with null | free
      · simp_all [Column.bare, Value.isTrue]
      · exact free.display
    · exact hd.defaultSqlType
  have flag (condition : Bool) (s : String) (hs : '\'' ∉ s.toList) :
      '\'' ∉ (if condition then s else "").toList := by
    cases condition
    · simp
    · exact hs
  have primary := flag c.bare.isPrimary " PRIMARY KEY" (by decide)
  have nullable := flag c.bare.nullable.isTrue " NULL" (by decide)
  have identity := flag c.bare.autoIncrement.isTrue " GENERATED ALWAYS AS IDENTITY" (by decide)
  simp only [columnDefinition, String.toList_append, List.mem_append, not_or]
  exact ⟨⟨⟨⟨⟨⟨name, by decide⟩, type⟩, primary⟩, nullable⟩, identity⟩,
    by simp [Column.bare, Value.isNull]⟩

theorem parallel_columnDefinition (hd : d.IsQuoteFree) (hc : c.IsQuoteFree)
    (form : d.SameForm d') (same : c.SameForm c') :
    Parallel (d.columnDefinition c).toList (d'.columnDefinition c').toList c.defaultTexts
      c'.defaultTexts := by
  have head : d'.columnDefinition c'.bare = d.columnDefinition c.bare := by
    rw [same.bare]
    simp [columnDefinition, sqlType, form.defaultSqlType]
  rw [columnDefinition_eq_append d c, columnDefinition_eq_append d' c', head,
    String.toList_append, String.toList_append]
  exact (Column.parallel_defaultClause hc same).plain_append
    (quote_not_mem_columnDefinition_bare hd hc)

theorem forall₂_of_mem {α β : Type} {R : α → β → Prop} {P : α → Prop} {Q : β → Prop}
    {xs : List α} {ys : List β} (h : List.Forall₂ R xs ys) (hx : ∀ x ∈ xs, P x)
    (hy : ∀ y ∈ ys, Q y) : List.Forall₂ (fun x y => P x ∧ Q y ∧ R x y) xs ys := by
  induction h with
  | nil => exact .nil
  | cons related _ ih =>
    exact .cons ⟨hx _ List.mem_cons_self, hy _ List.mem_cons_self, related⟩
      (ih (fun x mem => hx x (List.mem_cons_of_mem _ mem))
        fun y mem => hy y (List.mem_cons_of_mem _ mem))

theorem parallel_createTableText (hd : d.IsQuoteFree) (form : d.SameForm d') {table : String}
    (ht : '\'' ∉ table.toList) :
    Parallel (d.createTableText table).toList (d'.createTableText table).toList
      (d.columns.flatMap Column.defaultTexts) (d'.columns.flatMap Column.defaultTexts) := by
  have definitions := ParallelParts.map ((forall₂_of_mem form.columns hd.columns
    (fun _ _ => trivial)).imp fun c c' ⟨hc, _, same⟩ => parallel_columnDefinition hd hc form same)
  have list := definitions.intercalate (show '\'' ∉ ", ".toList by decide) (by decide)
  unfold createTableText
  simp only [String.toList_append, List.append_assoc]
  exact (((list.append_plain (by decide)).plain_append (by decide)).plain_append ht).plain_append
    (by decide)

theorem quote_not_mem_reference {name : String} (hd : d.IsQuoteFree) (hn : '\'' ∉ name.toList) :
    '\'' ∉ (d.reference name).toList := by
  simp only [reference, String.toList_append, List.mem_append, not_or]
  exact ⟨⟨hd.aliasName, by decide⟩, hn⟩

def caseArm (ref : String) (e : EnumValue) : String :=
  "WHEN " ++ ref ++ " = " ++ Literal.ofEnum e.value ++ " THEN " ++ Literal.ofLabel e.value e.label

theorem enumExpression_eq (d : Descriptor) (column : Value) (values : List EnumValue) :
    d.enumExpression column values =
      "CASE " ++ " ".intercalate (values.map (caseArm (d.reference column.display))) ++
        " ELSE 'Value \"' || " ++ d.reference column.display ++ " || '\"' END" :=
  rfl

theorem parallel_caseArm {ref : String} (hr : '\'' ∉ ref.toList) {e f : EnumValue}
    (he : e.Quotable) (hf : f.Quotable) (form : e.SameForm f) :
    Parallel (caseArm ref e).toList (caseArm ref f).toList (e.literalTexts ++ [e.labelText])
      (f.literalTexts ++ [f.labelText]) := by
  have value := Literal.parallel_ofEnum he hf form
  have label := Literal.parallel_quote e.labelText f.labelText
  unfold caseArm
  rw [Literal.ofLabel_eq_quote he, Literal.ofLabel_eq_quote hf]
  simp only [String.toList_append, List.append_assoc]
  have assigned := value.append_plain_append (show '\'' ∉ " THEN ".toList by decide)
    (by decide) label
  exact ((assigned.plain_append (by decide)).plain_append hr).plain_append (by decide)

theorem parallel_enumExpression (hd : d.IsQuoteFree) {column : Value} (hc : column.IsQuoteFree)
    (same : d'.aliasName = d.aliasName) {es fs : List EnumValue} (he : ∀ e ∈ es, e.Quotable)
    (hf : ∀ f ∈ fs, f.Quotable) (form : List.Forall₂ EnumValue.SameForm es fs) :
    Parallel (d.enumExpression column es).toList (d'.enumExpression column fs).toList
      (es.flatMap (fun e => e.literalTexts ++ [e.labelText]) ++ ["Value \"", "\""])
      (fs.flatMap (fun f => f.literalTexts ++ [f.labelText]) ++ ["Value \"", "\""]) := by
  have ref : '\'' ∉ (d.reference column.display).toList :=
    quote_not_mem_reference hd hc.display
  have refs : d'.reference column.display = d.reference column.display := by
    rw [reference, same, reference]
  have arms := (ParallelParts.map ((forall₂_of_mem form he hf).imp
    fun e f ⟨he, hf, same⟩ => parallel_caseArm ref he hf same)).intercalate
    (show '\'' ∉ " ".toList by decide) (by decide)
  have before : " ELSE 'Value \"' || ".toList =
      " ELSE ".toList ++ ((Literal.quote "Value \"").toList ++ " || ".toList) := by decide
  have behind : " || '\"' END".toList =
      " || ".toList ++ ((Literal.quote "\"").toList ++ " END".toList) := by decide
  have closing := (Literal.parallel_quote "\"" "\"").append_plain
    (show '\'' ∉ " END".toList by decide)
  have middle : '\'' ∉ " || ".toList ++ ((d.reference column.display).toList ++ " || ".toList) := by
    simp only [List.mem_append, not_or]
    exact ⟨by decide, ref, by decide⟩
  have branch := (Literal.parallel_quote "Value \"" "Value \"").append_plain_append middle
    (by simp) closing
  have whole := arms.append_plain_append (show '\'' ∉ " ELSE ".toList by decide) (by decide) branch
  rw [enumExpression_eq, enumExpression_eq, refs]
  simp only [String.toList_append, before, behind, List.append_assoc] at whole ⊢
  exact whole.plain_append (by decide)

theorem outputName_eq (form : d.SameForm d') (same : c.SameForm c') (useLabels : Bool) :
    d'.outputName c' useLabels = d.outputName c useLabels := by
  have enums : c'.enumValues.isSome = c.enumValues.isSome := by
    rcases same.enumValues_cases with ⟨none, none'⟩ | ⟨es, fs, some, some', -⟩
    · rw [none, none']
    · rw [some, some']
      rfl
  simp only [outputName, prefixed, form.aliasName, same.name, enums]

theorem quote_not_mem_outputName (hd : d.IsQuoteFree) (hc : c.IsQuoteFree) (useLabels : Bool) :
    '\'' ∉ (d.outputName c useLabels).toList := by
  have suffix : '\'' ∉
      (if useLabels && c.enumValues.isSome then "_label" else "").toList := by
    split <;> decide
  simp only [outputName, prefixed, String.toList_append, List.mem_append, not_or]
  exact ⟨⟨⟨by decide, ⟨hd.aliasName, by decide⟩, hc.name.display⟩, suffix⟩, by decide⟩

theorem parallel_columnField (hd : d.IsQuoteFree) (hc : c.IsQuoteFree) (hc' : c'.IsQuoteFree)
    (form : d.SameForm d') (same : c.SameForm c') (useLabels : Bool) :
    Parallel (d.columnField useLabels c).toList (d'.columnField useLabels c').toList
      (if useLabels then c.caseTexts else []) (if useLabels then c'.caseTexts else []) := by
  have ref : d'.reference c'.name.display = d.reference c.name.display := by
    rw [reference, form.aliasName, same.name, reference]
  have bare : Parallel (d.reference c.name.display).toList (d'.reference c'.name.display).toList
      [] [] := by
    rw [ref]
    exact Parallel.plain (quote_not_mem_reference hd hc.name.display)
  have output : '\'' ∉ " AS ".toList ++ (d.outputName c useLabels).toList := by
    simp only [List.mem_append, not_or]
    exact ⟨by decide, quote_not_mem_outputName hd hc useLabels⟩
  have name := outputName_eq form same useLabels
  unfold columnField
  rw [name]
  simp only [String.toList_append, List.append_assoc]
  refine Parallel.append_plain ?_ output
  cases useLabels with
  | false => exact bare
  | true =>
    rcases same.enumValues_cases with ⟨none, none'⟩ | ⟨es, fs, some, some', alike⟩
    · simpa only [Column.caseTexts, none, none', if_true] using bare
    · have expressions := parallel_enumExpression hd hc.name form.aliasName
        (hc.values es some) (hc'.values fs some') alike
      simpa only [Column.caseTexts, some, some', same.name, if_true] using expressions

end Descriptor

end TableSchema
