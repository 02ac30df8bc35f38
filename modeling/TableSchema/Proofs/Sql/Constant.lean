import TableSchema.Proofs.Sql.Reading
import TableSchema.Proofs.Sql.SuppliedText
import TableSchema.Proofs.Text.Identifier
import TableSchema.Proofs.Text.NumberForm

/-!
Constants of a statement: a literal, a word for a truth value or a number. Every scalar is rendered
as one of these and never as a name, unless it is a double that is not finite. Those are written
like a column that is called `nan` or `inf`.
-/

namespace TableSchema

open Text (IsNumber IsIdentifier)

namespace Sql

def truthWords (b : Bool) : List String :=
  if b then ["TRUE", "true"] else ["FALSE", "false"]

inductive IsConstant (s : String) : Prop
  | literal (contents : String) (h : read s = ⟨['\'', '\''], [contents], true⟩)
  | truth (b : Bool) (h : s ∈ truthWords b)
  | number (h : IsNumber s.toList)

variable {s : String}

theorem not_isNumber_of_truthWords {b : Bool} (h : s ∈ truthWords b) : ¬ IsNumber s.toList := by
  have letters : ∀ b, ∀ word ∈ truthWords b, word.toList.any Char.isDigit = false := by decide
  intro number
  exact absurd (number.any_isDigit.symm.trans (letters b s h)) (by decide)

theorem IsConstant.truth_of_isIdentifier (h : IsConstant s) (name : IsIdentifier s) :
    ∃ b, s ∈ truthWords b := by
  cases h with
  | truth b word => exact ⟨b, word⟩
  | literal contents reading =>
    have noQuote : '\'' ∉ s.toList := Text.not_mem_of_isIdentifier name (by decide)
    rw [read_plain noQuote] at reading
    exact absurd (congrArg Reading.contents reading) (List.cons_ne_nil _ _).symm
  | number number =>
    obtain ⟨c, rest, split, start⟩ := number.start
    rw [IsIdentifier, split, Text.isIdentifier_cons_iff] at name
    cases start with
    | inl digit =>
      have ascii := Text.toNat_lt_of_identifierChar (Text.isIdentifierChar_of_start name.1)
      refine absurd digit (Text.forall_ascii (p := fun c =>
        Text.isIdentifierStart c = true → ¬ c.isDigit = true) ?_ c ascii name.1)
      decide
    | inr minus =>
      rw [minus] at name
      exact absurd name.1 (by decide)

end Sql

/-- Any value but a double that is infinite or `nan`. -/
def Value.isFinite : Value → Bool
  | float .nan => false
  | float (.infinite _) => false
  | _ => true

namespace Sql

theorem not_isConstant_of_bare {s : String} (free : '\'' ∉ s.toList)
    (letters : s.toList.any Char.isDigit = false) (other : ∀ b, s ∉ truthWords b) :
    ¬ IsConstant s := by
  intro constant
  cases constant with
  | truth b word => exact other b word
  | literal contents reading =>
    rw [read_plain free] at reading
    exact absurd (congrArg Reading.contents reading) (List.cons_ne_nil _ _).symm
  | number number => exact absurd (number.any_isDigit.symm.trans letters) (by decide)

end Sql

namespace Literal

open Sql

variable {value : Value}

theorem isConstant_quote (s : String) : IsConstant (quote s) :=
  .literal s (read_quote s)

theorem isConstant_display_iff (number : value.isNumber = true) :
    IsConstant value.display ↔ value.isFinite = true := by
  cases value with
  | int n => exact iff_of_true (.number (Text.isNumber_intRepr n)) rfl
  | float x =>
    cases x with
    | finite negative units =>
      exact iff_of_true (.number (Binary64.isNumber_text negative units)) rfl
    | nan =>
      have name : ¬ IsConstant "nan" := not_isConstant_of_bare (by decide) (by decide) (by decide)
      exact iff_of_false name Bool.false_ne_true
    | infinite negative =>
      have names : ∀ s ∈ ["inf", "-inf"], ¬ IsConstant s := by
        intro s hs
        have bare : ∀ s ∈ ["inf", "-inf"], '\'' ∉ s.toList ∧
            s.toList.any Char.isDigit = false ∧ ∀ b, s ∉ truthWords b := by decide
        obtain ⟨free, letters, other⟩ := bare s hs
        exact not_isConstant_of_bare free letters other
      cases negative with
      | false => exact iff_of_false (names "inf" (by decide)) Bool.false_ne_true
      | true => exact iff_of_false (names "-inf" (by decide)) Bool.false_ne_true
  | _ => exact absurd number Bool.false_ne_true

theorem isConstant_rendered_iff {render : Value → String} (texts : ∀ s, render (.text s) = quote s)
    (bools : ∀ b, IsConstant (render (.bool b)))
    (ints : ∀ n, render (.int n) = (Value.int n).display)
    (floats : ∀ x, render (.float x) = (Value.float x).display)
    (scalar : value.isScalar = true) :
    IsConstant (render value) ↔ value.isFinite = true := by
  cases value with
  | text s =>
    rw [texts]
    exact iff_of_true (isConstant_quote s) rfl
  | bool b => exact iff_of_true (bools b) rfl
  | int n =>
    rw [ints]
    exact isConstant_display_iff rfl
  | float x =>
    rw [floats]
    exact isConstant_display_iff rfl
  | _ => exact absurd scalar Bool.false_ne_true

theorem isConstant_ofFilter_iff (scalar : value.isScalar = true) :
    IsConstant (ofFilter value) ↔ value.isFinite = true := by
  have words : ∀ b, ofFilter (.bool b) ∈ truthWords b := by decide
  exact isConstant_rendered_iff (fun _ => rfl) (fun b => .truth b (words b)) (fun _ => rfl)
    (fun _ => rfl) scalar

theorem isConstant_ofDefault_iff (scalar : value.isScalar = true) :
    IsConstant (ofDefault value) ↔ value.isFinite = true := by
  have words : ∀ b, ofDefault (.bool b) ∈ truthWords b := by decide
  exact isConstant_rendered_iff (fun _ => rfl) (fun b => .truth b (words b)) (fun _ => rfl)
    (fun _ => rfl) scalar

theorem isConstant_ofEnum_iff (scalar : value.isScalar = true) :
    IsConstant (ofEnum value) ↔ value.isFinite = true :=
  isConstant_rendered_iff (fun _ => rfl) (fun _ => isConstant_quote _) (fun _ => rfl)
    (fun _ => rfl) scalar

/-- A scalar is rendered as one constant exactly if it is finite, and a constant is never read as a
name, the words for truth values aside. -/
theorem rendered_isConstant_iff (value : Value) (scalar : value.isScalar = true) :
    (IsConstant (ofFilter value) ↔ value.isFinite = true) ∧
      (IsConstant (ofDefault value) ↔ value.isFinite = true) ∧
      (IsConstant (ofEnum value) ↔ value.isFinite = true) ∧
      ∀ s, IsConstant s → IsIdentifier s → ∃ b, s ∈ truthWords b :=
  ⟨isConstant_ofFilter_iff scalar, isConstant_ofDefault_iff scalar, isConstant_ofEnum_iff scalar,
    fun _ constant name => constant.truth_of_isIdentifier name⟩

theorem rendered_isConstant_iff_of_exponent :
    ofFilter (.float (.ofDecimal true 25 (-7))) = "-2.5e-06" ∧ IsConstant "-2.5e-06" := by
  have text : ofFilter (.float (.ofDecimal true 25 (-7))) = "-2.5e-06" := by decide +kernel
  have finite : (Value.float (.ofDecimal true 25 (-7))).isFinite = true := by decide +kernel
  obtain ⟨filter, -⟩ := rendered_isConstant_iff (.float (.ofDecimal true 25 (-7))) rfl
  exact ⟨text, text ▸ filter.2 finite⟩

/-- A double that is not a number is written like a column of that name. -/
theorem not_forall_isConstant :
    ¬ ∀ value : Value, value.isScalar = true →
      IsConstant (ofFilter value) ∧ IsConstant (ofDefault value) ∧
        ((∀ b, value ≠ .bool b) → IsConstant (ofEnum value)) := by
  intro constant
  have filter := (constant (.float .nan) rfl).1
  exact absurd ((isConstant_ofFilter_iff rfl).1 filter) Bool.false_ne_true

end Literal

end TableSchema
