import Mathlib.Data.List.TakeWhile
import TableSchema.Value.Display

/-!
Numbers in the form in which a database reads them: digits behind an optional minus sign, a
fraction of one digit or more, and an exponent that has a sign of its own. Integers and finite
doubles are displayed in that form, so no digit that the form asks for is ever missing.
-/

namespace TableSchema

namespace Text

def IsDigits (cs : List Char) : Prop :=
  cs ≠ [] ∧ ∀ c ∈ cs, c.isDigit = true

inductive IsFraction : List Char → Prop
  | none : IsFraction []
  | point {ds : List Char} (digits : IsDigits ds) : IsFraction ('.' :: ds)

inductive IsExponent : List Char → Prop
  | none : IsExponent []
  | power {sign : Char} {ds : List Char} (signed : sign = '+' ∨ sign = '-')
      (digits : IsDigits ds) : IsExponent ('e' :: sign :: ds)

inductive IsUnsigned : List Char → Prop
  | mk {whole fraction exponent : List Char} (digits : IsDigits whole)
      (point : IsFraction fraction) (power : IsExponent exponent) :
      IsUnsigned (whole ++ (fraction ++ exponent))

inductive IsNumber : List Char → Prop
  | unsigned {cs : List Char} (h : IsUnsigned cs) : IsNumber cs
  | negative {cs : List Char} (h : IsUnsigned cs) : IsNumber ('-' :: cs)

variable {a b cs : List Char}

theorem IsDigits.append_of_forall (ha : IsDigits a) (hb : ∀ c ∈ b, c.isDigit = true) :
    IsDigits (a ++ b) := by
  refine ⟨List.append_ne_nil_of_left_ne_nil ha.1 b, fun c hc => ?_⟩
  cases List.mem_append.1 hc with
  | inl mem => exact ha.2 c mem
  | inr mem => exact hb c mem

theorem isDigits_zero : IsDigits ['0'] :=
  ⟨List.cons_ne_nil _ _, List.forall_mem_singleton.2 rfl⟩

theorem isDigits_toDigits (n : Nat) : IsDigits (Nat.toDigits 10 n) :=
  ⟨Nat.toDigits_ne_nil, fun _ hc => Nat.isDigit_of_mem_toDigits (by decide) (by decide) hc⟩

theorem IsUnsigned.of_digits (h : IsDigits cs) : IsUnsigned cs := by
  have whole := IsUnsigned.mk h .none .none
  rwa [List.append_nil, List.append_nil] at whole

theorem IsUnsigned.of_point (ha : IsDigits a) (hb : IsDigits b) : IsUnsigned (a ++ '.' :: b) := by
  have whole := IsUnsigned.mk ha (.point hb) .none
  rwa [List.append_nil] at whole

theorem IsUnsigned.start (h : IsUnsigned cs) : ∃ c rest, cs = c :: rest ∧ c.isDigit = true := by
  cases h with
  | mk digits =>
    obtain ⟨c, whole, rfl⟩ := List.exists_cons_of_ne_nil digits.1
    exact ⟨c, _, rfl, digits.2 c List.mem_cons_self⟩

theorem IsNumber.start (h : IsNumber cs) :
    ∃ c rest, cs = c :: rest ∧ (c.isDigit = true ∨ c = '-') := by
  cases h with
  | unsigned h =>
    obtain ⟨c, rest, split, digit⟩ := h.start
    exact ⟨c, rest, split, .inl digit⟩
  | @negative rest => exact ⟨'-', rest, rfl, .inr rfl⟩

theorem IsNumber.any_isDigit (h : IsNumber cs) : cs.any Char.isDigit = true := by
  cases h with
  | unsigned h =>
    obtain ⟨c, rest, rfl, digit⟩ := h.start
    rw [List.any_cons, digit, Bool.true_or]
  | negative h =>
    obtain ⟨c, rest, rfl, digit⟩ := h.start
    rw [List.any_cons, List.any_cons, digit, Bool.true_or, Bool.or_true]

theorem isNumber_intRepr (n : Int) : IsNumber n.repr.toList := by
  cases n with
  | ofNat n =>
    rw [Int.repr, Nat.toList_repr]
    exact .unsigned (.of_digits (isDigits_toDigits n))
  | negSucc n =>
    rw [Int.repr, String.toList_append, Nat.toList_repr]
    exact .negative (.of_digits (isDigits_toDigits (n + 1)))

end Text

open Text

namespace Decimal

variable {digits : List Char} {n : Nat}

theorem significantDigits_ne_nil (h : n ≠ 0) : significantDigits n ≠ [] := by
  intro none
  have zeros : ∀ c ∈ Nat.toDigits 10 n, c = '0' := by
    intro c hc
    have dropped := List.dropWhile_eq_nil_iff.1 (List.reverse_eq_nil_iff.1 none)
    simpa using dropped c (List.mem_reverse.2 hc)
  have value := Nat.ofDigitChars_ten_toDigits (n := n)
  rw [List.eq_replicate_of_mem zeros, Nat.ofDigitChars_replicate_zero] at value
  omega

theorem isDigits_significantDigits (h : n ≠ 0) : IsDigits (significantDigits n) := by
  refine ⟨significantDigits_ne_nil h, fun c hc => ?_⟩
  rw [significantDigits, List.mem_reverse] at hc
  have mem := List.mem_reverse.1 ((List.dropWhile_sublist _).subset hc)
  exact Nat.isDigit_of_mem_toDigits (by decide) (by decide) mem

theorem isUnsigned_positional (h : IsDigits digits) (point : Int) :
    IsUnsigned (positional digits point) := by
  have zeros (k : Nat) : ∀ c ∈ List.replicate k '0', c.isDigit = true := by
    intro c hc
    rw [List.eq_of_mem_replicate hc]
    rfl
  unfold positional
  split
  next =>
    have fraction : IsDigits (List.replicate (-point).toNat '0' ++ digits) := by
      refine ⟨List.append_ne_nil_of_right_ne_nil _ h.1, fun c hc => ?_⟩
      cases List.mem_append.1 hc with
      | inl mem => exact zeros _ c mem
      | inr mem => exact h.2 c mem
    exact .of_point isDigits_zero fraction
  next positive =>
    split
    next =>
      have whole := h.append_of_forall (zeros (point.toNat - digits.length))
      exact .of_point whole isDigits_zero
    next inside =>
      have before : IsDigits (digits.take point.toNat) := by
        refine ⟨?_, fun c hc => h.2 c (List.mem_of_mem_take hc)⟩
        rw [← List.length_pos_iff, List.length_take]
        omega
      have behind : IsDigits (digits.drop point.toNat) := by
        refine ⟨?_, fun c hc => h.2 c (List.mem_of_mem_drop hc)⟩
        rw [← List.length_pos_iff, List.length_drop]
        omega
      exact .of_point before behind

theorem isExponent_exponentChars (exponent : Int) :
    IsExponent ('e' :: exponentChars exponent) := by
  have digits := isDigits_toDigits exponent.natAbs
  unfold exponentChars
  apply IsExponent.power
  · split
    · exact .inr rfl
    · exact .inl rfl
  · split
    · refine ⟨List.cons_ne_nil _ _, fun c hc => ?_⟩
      cases List.mem_cons.1 hc with
      | inl first => exact first ▸ rfl
      | inr mem => exact digits.2 c mem
    · exact digits

theorem isUnsigned_scientific (h : IsDigits digits) (exponent : Int) :
    IsUnsigned (scientific digits exponent) := by
  have whole : IsDigits (digits.take 1) := by
    refine ⟨?_, fun c hc => h.2 c (List.mem_of_mem_take hc)⟩
    rw [Ne, List.take_eq_nil_iff]
    simpa using h.1
  have fraction : IsFraction
      (if (digits.drop 1).isEmpty then [] else '.' :: digits.drop 1) := by
    split
    next => exact .none
    next nonempty =>
      refine .point ⟨by simpa using nonempty, fun c hc => h.2 c (List.mem_of_mem_drop hc)⟩
  have form := IsUnsigned.mk whole fraction (isExponent_exponentChars exponent)
  rwa [← List.append_assoc] at form

theorem isUnsigned_chars {d : Decimal} (h : d.significand ≠ 0) : IsUnsigned d.chars := by
  have digits := isDigits_significantDigits h
  unfold chars
  dsimp only
  split
  · exact isUnsigned_positional digits _
  · exact isUnsigned_scientific digits _

end Decimal

namespace Binary64

variable {units : Nat}

theorem leastUnit_pos : 0 < leastUnit := by
  unfold leastUnit
  generalize 1074 = n
  exact Nat.pow_pos (Nat.succ_pos 4)

theorem low_ofUnits_pos (h : units ≠ 0) : 0 < (Rounding.ofUnits units).low := by
  have size : 2 ^ (units.log2 - 52) ≤ units :=
    Nat.le_trans (Nat.pow_le_pow_right (Nat.succ_pos 1) (Nat.sub_le ..)) (Nat.log2_self_le h)
  have gap : leastUnit <<< (units.log2 - 52) ≤ units * leastUnit := by
    rw [Nat.shiftLeft_eq, Nat.mul_comm]
    exact Nat.mul_le_mul_right leastUnit size
  have positive : 0 < units * leastUnit := Nat.mul_pos (Nat.pos_of_ne_zero h) leastUnit_pos
  unfold Rounding.ofUnits
  dsimp only
  split <;> omega

theorem significand_shortest_ne_zero (h : units ≠ 0) : (shortest units).significand ≠ 0 := by
  have low := low_ofUnits_pos h
  unfold shortest
  dsimp only
  cases found : (List.range 17).findSome? _ with
  | none => exact Nat.mul_ne_zero h (Nat.ne_of_gt leastUnit_pos)
  | some d =>
    obtain ⟨i, -, nearest⟩ := List.exists_of_findSome?_eq_some found
    obtain ⟨significand, grid, rfl⟩ := Option.map_eq_some_iff.1 nearest
    have held := Rounding.holds_of_nearest? grid
    rintro rfl
    rw [Nat.zero_mul] at held
    unfold Rounding.holds at held
    split at held
    · simp only [Nat.zero_le, decide_true, Bool.and_true, decide_eq_true_eq] at held
      omega
    · simp at held

theorem isNumber_text (negative : Bool) (units : Nat) :
    IsNumber (finite negative units).text.toList := by
  have unsigned : IsUnsigned (if units = 0 then ['0', '.', '0'] else (shortest units).chars) := by
    split
    next =>
      exact .of_point isDigits_zero isDigits_zero
    next nonzero => exact Decimal.isUnsigned_chars (significand_shortest_ne_zero nonzero)
  rw [toList_text]
  cases negative with
  | false => exact .unsigned unsigned
  | true => exact .negative unsigned

end Binary64

end TableSchema
