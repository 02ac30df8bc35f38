import Mathlib.Data.List.Find
import TableSchema.Proofs.Sql.LiteralPart
import TableSchema.Proofs.Validation.ValueClass

/-!
Arms of `CASE` expressions that are never reached. Texts and integers are the same for validation
exactly when they are rendered as the same literal, so the repetitions that it finds among the
values of an enum are the arms that an earlier one keeps from being chosen.
-/

namespace TableSchema

section Literals

def Value.IsTextOrInt : Value → Prop
  | .text _ | .int _ => True
  | _ => False

variable {v w : Value}

theorem Literal.quote_injective : Function.Injective Literal.quote := by
  intro s t same
  have texts := congrArg Sql.Reading.contents (congrArg Sql.read same)
  rw [Sql.read_quote, Sql.read_quote] at texts
  exact (List.cons.inj texts).1

theorem Literal.quote_ne_repr (s : String) (n : Int) : Literal.quote s ≠ n.repr := by
  intro same
  have quote : '\'' ∈ (Literal.quote s).toList := by
    rw [Literal.toList_quote]
    exact List.mem_cons_self
  rw [same] at quote
  exact Value.quote_not_mem_display (show (Value.int n).isNumber = true from rfl) quote

theorem Literal.ofEnum_inj (hv : v.IsTextOrInt) (hw : w.IsTextOrInt) :
    Literal.ofEnum v = Literal.ofEnum w ↔ v = w := by
  refine ⟨fun same => ?_, congrArg Literal.ofEnum⟩
  cases v with
  | text s =>
    cases w with
    | text t => exact congrArg Value.text (Literal.quote_injective same)
    | int n => exact absurd same (Literal.quote_ne_repr s n)
    | _ => exact hw.elim
  | int m =>
    cases w with
    | text t => exact absurd same.symm (Literal.quote_ne_repr t m)
    | int n => exact congrArg Value.int (Text.intRepr_injective same)
    | _ => exact hw.elim
  | _ => exact hv.elim

theorem Value.same_iff_eq (hv : v.IsTextOrInt) (hw : w.IsTextOrInt) :
    v.same w = true ↔ v = w := by
  cases v with
  | text s =>
    rw [same_text_iff]
    exact eq_comm
  | int m =>
    cases w with
    | text t => simp [same, integer?]
    | int n => rw [same_of_integers rfl rfl, int.injEq]
    | _ => exact hw.elim
  | _ => exact hv.elim

end Literals

section Arms

structure CaseArm where
  literal : String
  label : String
  deriving DecidableEq, Repr

namespace CaseArm

def text (ref : String) (arm : CaseArm) : String :=
  "WHEN " ++ ref ++ " = " ++ arm.literal ++ " THEN " ++ arm.label

def expression (ref : String) (arms : List CaseArm) : String :=
  "CASE " ++ " ".intercalate (arms.map (text ref)) ++
    " ELSE 'Value \"' || " ++ ref ++ " || '\"' END"

/-- The first arm that compares with the literal. -/
def chosen? (arms : List CaseArm) (literal : String) : Option CaseArm :=
  arms.find? (·.literal = literal)

/-- An arm with the same literal comes before. -/
def IsShadowed (before : List CaseArm) (arm : CaseArm) : Prop :=
  ∃ earlier ∈ before, earlier.literal = arm.literal

instance (before : List CaseArm) (arm : CaseArm) : Decidable (IsShadowed before arm) :=
  List.decidableBEx _ before

def place? (arms : List CaseArm) (literal : String) : Option Nat :=
  arms.findIdx? (·.literal = literal)

theorem exists_place_iff (before : List CaseArm) (arm : CaseArm) (after : List CaseArm) :
    (∃ literal, place? (before ++ arm :: after) literal = some before.length) ↔
      ¬ IsShadowed before arm := by
  constructor
  · rintro ⟨literal, first⟩ ⟨earlier, mem, same⟩
    obtain ⟨_, here, others⟩ := List.findIdx?_eq_some_iff_getElem.1 first
    obtain ⟨j, inside, rfl⟩ := List.mem_iff_getElem.1 mem
    have different := others j inside
    simp only [List.getElem_append_right le_rfl, Nat.sub_self, List.getElem_cons_zero,
      decide_eq_true_eq] at here
    simp only [List.getElem_append_left inside, same, here, decide_true, not_true] at different
  · intro reached
    have others : before.findIdx? (·.literal = arm.literal) = none := by
      refine List.findIdx?_eq_none_iff.2 fun earlier mem => decide_eq_false fun same => ?_
      exact reached ⟨earlier, mem, same⟩
    refine ⟨arm.literal, ?_⟩
    rw [place?, List.findIdx?_append, others, List.findIdx?_cons, decide_eq_true rfl, if_pos rfl]
    simp

end CaseArm

def EnumValue.arm (e : EnumValue) : CaseArm :=
  ⟨Literal.ofEnum e.value, Literal.ofLabel e.value e.label⟩

theorem Descriptor.enumExpression_eq_expression (d : Descriptor) (column : Value)
    (es : List EnumValue) : d.enumExpression column es =
      CaseArm.expression (d.reference column.display) (es.map EnumValue.arm) := by
  rw [enumExpression_eq, CaseArm.expression, List.map_map]
  rfl

variable {es : List EnumValue} {e : EnumValue}

theorem chosen?_eq (plain : ∀ e ∈ es, e.value.IsTextOrInt) {value : Value}
    (hv : value.IsTextOrInt) :
    CaseArm.chosen? (es.map EnumValue.arm) (Literal.ofEnum value) =
      (es.find? (·.value = value)).map EnumValue.arm := by
  have agree : ∀ e ∈ es, decide (e.arm.literal = Literal.ofEnum value) = decide (e.value = value) :=
    fun e he => decide_eq_decide.2 (Literal.ofEnum_inj (plain e he) hv)
  rw [CaseArm.chosen?, List.find?_map]
  exact congrArg (Option.map EnumValue.arm) (List.find?_congr agree)

end Arms

namespace Validation

variable {column : Value} {es : List EnumValue} {e : EnumValue}

def entryIssues (column : Value) (before : List EnumValue) (e : EnumValue) : List Issue :=
  repeatedValueIssues column (before.map EnumValue.value).reverse [e]

theorem repeatedValueIssues_append (column : Value) (earlier : List Value)
    (before after : List EnumValue) :
    repeatedValueIssues column earlier (before ++ after) =
      repeatedValueIssues column earlier before ++
        repeatedValueIssues column ((before.map EnumValue.value).reverse ++ earlier) after := by
  induction before generalizing earlier with
  | nil => rfl
  | cons e before ih => simp [repeatedValueIssues, ih]

theorem entryIssues_eq {before : List EnumValue} (he : e.value.IsTextOrInt)
    (plain : ∀ f ∈ before, f.value.IsTextOrInt) :
    entryIssues column before e =
      if CaseArm.IsShadowed (before.map EnumValue.arm) e.arm then
        [.repeatedEnumValue e.value column] else [] := by
  have repeated : (before.map EnumValue.value).reverse.any e.value.same = true ↔
      CaseArm.IsShadowed (before.map EnumValue.arm) e.arm := by
    have agree (f : EnumValue) (hf : f ∈ before) :
        e.value.same f.value = true ↔ f.arm.literal = e.arm.literal := by
      rw [Value.same_iff_eq he (plain f hf), ← Literal.ofEnum_inj he (plain f hf)]
      exact eq_comm
    rw [List.any_reverse, List.any_map, List.any_eq_true]
    constructor
    · rintro ⟨f, hf, same⟩
      exact ⟨f.arm, List.mem_map_of_mem hf, (agree f hf).1 same⟩
    · rintro ⟨arm, mem, same⟩
      obtain ⟨f, hf, rfl⟩ := List.mem_map.1 mem
      exact ⟨f, hf, (agree f hf).2 same⟩
  rw [entryIssues, repeatedValueIssues, repeatedValueIssues, List.append_nil]
  exact if_congr repeated rfl rfl

theorem columnIssues_append (seen : List Value) (earlier later : List Column) :
    columnIssues seen (earlier ++ later) =
      columnIssues seen earlier ++
        columnIssues ((earlier.map Column.name).reverse ++ seen) later := by
  induction earlier generalizing seen with
  | nil => rfl
  | cons c earlier ih => simp [columnIssues, ih]

structure MarksShadowed (c : Column) (es : List EnumValue) : Prop where
  rendered : ∀ d : Descriptor, d.enumExpression c.name es =
    CaseArm.expression (d.reference c.name.display) (es.map EnumValue.arm)
  /-- An entry is marked exactly if an arm before its own has the same literal. -/
  marked : ∀ before e after, es = before ++ e :: after →
    enumIssues c = repeatedValueIssues c.name [] before ++ entryIssues c.name before e ++
        repeatedValueIssues c.name (e.value :: (before.map EnumValue.value).reverse) after ∧
      entryIssues c.name before e =
        if CaseArm.IsShadowed (before.map EnumValue.arm) e.arm then
          [.repeatedEnumValue e.value c.name] else []
  /-- The arms that are never reached are those of marked entries. -/
  unreached : ∀ before e after, es = before ++ e :: after →
    (entryIssues c.name before e = [] ↔
      ∃ literal, CaseArm.place? (es.map EnumValue.arm) literal = some before.length)
  chosen : ∀ e ∈ es, ∃ first, es.find? (·.value = e.value) = some first ∧
    CaseArm.chosen? (es.map EnumValue.arm) (Literal.ofEnum e.value) = some first.arm
  own : .duplicateEnumValue ∉ (enumIssues c).map Issue.code → ∀ e ∈ es,
    CaseArm.chosen? (es.map EnumValue.arm) (Literal.ofEnum e.value) = some e.arm

theorem enumIssues_split {c : Column} (held : c.enumValues = some es)
    {before after : List EnumValue} (split : es = before ++ e :: after) :
    enumIssues c = repeatedValueIssues c.name [] before ++ entryIssues c.name before e ++
      repeatedValueIssues c.name (e.value :: (before.map EnumValue.value).reverse) after := by
  have loop : enumIssues c = repeatedValueIssues c.name [] es := by
    unfold enumIssues
    rw [held]
    cases es with
    | nil => simp at split
    | cons => rfl
  rw [loop, split, repeatedValueIssues_append, List.append_nil, repeatedValueIssues, entryIssues,
    repeatedValueIssues, repeatedValueIssues, List.append_nil, List.append_assoc]

theorem marksShadowed {c : Column} (held : c.enumValues = some es)
    (plain : ∀ e ∈ es, e.value.IsTextOrInt) : MarksShadowed c es := by
  have entry {before after : List EnumValue} {e : EnumValue} (split : es = before ++ e :: after) :
      entryIssues c.name before e =
        if CaseArm.IsShadowed (before.map EnumValue.arm) e.arm then
          [.repeatedEnumValue e.value c.name] else [] :=
    entryIssues_eq (plain e (by simp [split])) fun f hf => plain f (by simp [split, hf])
  have chosen {value : Value} (hv : value.IsTextOrInt) := chosen?_eq plain hv
  refine ⟨fun d => d.enumExpression_eq_expression c.name es, fun before e after split =>
    ⟨enumIssues_split held split, entry split⟩, fun before e after split => ?_,
    fun e he => ?_, fun unmarked e he => ?_⟩
  · rw [entry split, split, List.map_append, List.map_cons, ← List.length_map EnumValue.arm,
      CaseArm.exists_place_iff]
    simp
  · cases found : es.find? (·.value = e.value) with
    | none => exact absurd (decide_eq_true rfl) (List.find?_eq_none.1 found e he)
    | some first => exact ⟨first, rfl, by rw [chosen (plain e he), found, Option.map_some]⟩
  · obtain ⟨before, after, split⟩ := List.append_of_mem he
    have reached : ¬ CaseArm.IsShadowed (before.map EnumValue.arm) e.arm := by
      intro shadowed
      refine unmarked (List.mem_map.2 ⟨.repeatedEnumValue e.value c.name, ?_, rfl⟩)
      rw [enumIssues_split held split, entry split, if_pos shadowed]
      simp
    have first : es.find? (·.value = e.value) = some e := by
      refine List.find?_eq_some_iff_append.2 ⟨by simp, before, after, split, fun f hf => ?_⟩
      have other : f.value ≠ e.value := fun same =>
        reached ⟨f.arm, List.mem_map_of_mem hf, congrArg Literal.ofEnum same⟩
      simpa using other
    rw [chosen (plain e he), first, Option.map_some]

/-- What validation reports where it does not fail: the issues of a column in their place, and among
them a repetition for each arm of the column's `CASE` expression that is never reached. -/
theorem validate_marksShadowed (settings : Settings) {earlier later : List Column} {c : Column}
    {constraints : List ForeignKey} {found : List Issue}
    (h : (validate settings (earlier ++ c :: later) constraints).outcome = .ok found)
    (held : c.enumValues = some es) (plain : ∀ e ∈ es, e.value.IsTextOrInt) :
    MarksShadowed c es ∧ ∃ keys, primaryKeyIssues (earlier ++ c :: later) = .ok keys ∧
      found = keys ++ (columnIssues [] earlier ++
          ((if (earlier.map Column.name).any c.name.same then [.duplicateColumn c.name] else []) ++
            enumIssues c ++ columnIssues (c.name :: (earlier.map Column.name).reverse) later)) ++
        constraints.flatMap (foreignKeyIssues (earlier ++ c :: later)) := by
  rw [validate_outcome] at h
  obtain ⟨keys, primary, rfl⟩ := issues_eq_ok h
  refine ⟨marksShadowed held plain, keys, primary, ?_⟩
  rw [columnIssues_append, List.append_nil, columnIssues, List.any_reverse]

def gradeValues : List EnumValue :=
  [⟨.text "1", .text "best"⟩, ⟨.int 1, .text "it's 1"⟩, ⟨.int (-1), .null⟩, ⟨.int 1, .text "one"⟩]

def gradeColumn : Column :=
  { name := .text "grade", enumValues := some gradeValues }

theorem validate_marksShadowed_of_gradeColumn :
    (validate {} [{ name := .text "id" }, gradeColumn] []).outcome =
        .ok [.noPrimaryKey, .repeatedEnumValue (.int 1) (.text "grade")] ∧
      (¬ ∃ literal, CaseArm.place? (gradeValues.map EnumValue.arm) literal = some 3) ∧
      CaseArm.chosen? (gradeValues.map EnumValue.arm) (Literal.ofEnum (.int 1)) =
        some ⟨"1", "'it''s 1'"⟩ := by
  have plain : ∀ e ∈ gradeValues, e.value.IsTextOrInt := by
    simp [gradeValues, Value.IsTextOrInt]
  have answer : (validate {} ([{ name := .text "id" }] ++ gradeColumn :: []) []).outcome =
      .ok [.noPrimaryKey, .repeatedEnumValue (.int 1) (.text "grade")] := rfl
  obtain ⟨marks, -⟩ := validate_marksShadowed {} answer rfl plain
  have unreached := marks.unreached (gradeValues.take 3) ⟨.int 1, .text "one"⟩ [] rfl
  obtain ⟨first, found, chosen⟩ := marks.chosen ⟨.int 1, .text "one"⟩ (by simp [gradeValues])
  have second : gradeValues.find? (·.value = .int 1) = some ⟨.int 1, .text "it's 1"⟩ := by decide
  obtain rfl := Option.some.inj (found.symm.trans second)
  exact ⟨answer, fun reached => absurd (unreached.2 reached) (by decide), chosen⟩

end Validation

end TableSchema
