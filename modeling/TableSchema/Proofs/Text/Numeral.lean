import TableSchema.Value.Display

/-!
Characters that numbers are written with. Whatever the number, no quote, dollar sign, blank or
bracket is among them. The digits of an integer give the integer back.
-/

namespace TableSchema

/-- A digit, a sign, the point or a letter of an exponent, of `inf` or of `nan`. -/
def isNumeralChar (c : Char) : Bool :=
  c.isDigit || ['-', '+', '.', 'e', 'i', 'n', 'f', 'a'].contains c

theorem toNat_lt_of_isNumeralChar {c : Char} (h : isNumeralChar c = true) : c.toNat < 128 := by
  simp only [isNumeralChar, Bool.or_eq_true, List.contains_eq_mem, decide_eq_true_eq] at h
  rcases h with digit | listed
  · have nine : c.toNat ≤ 57 := (Char.isDigit_iff_toNat.1 digit).2
    omega
  · have ascii : (['-', '+', '.', 'e', 'i', 'n', 'f', 'a'].all fun x => x.toNat < 128) = true := by
      decide
    exact of_decide_eq_true (List.all_eq_true.1 ascii c listed)

theorem isNumeralChar_of_mem_toDigits {n : Nat} {c : Char} (h : c ∈ Nat.toDigits 10 n) :
    isNumeralChar c = true := by
  simp [isNumeralChar, Nat.isDigit_of_mem_toDigits (by decide) (by decide) h]

theorem isNumeralChar_of_mem_intRepr {n : Int} {c : Char} (h : c ∈ n.repr.toList) :
    isNumeralChar c = true := by
  cases n with
  | ofNat n =>
    rw [Int.repr, Nat.toList_repr] at h
    exact isNumeralChar_of_mem_toDigits h
  | negSucc n =>
    rw [Int.repr, String.toList_append, Nat.toList_repr, List.mem_append] at h
    rcases h with h | h
    · obtain rfl : c = '-' := by simpa using h
      decide
    · exact isNumeralChar_of_mem_toDigits h

namespace Text

def natural? (cs : List Char) : Option Nat :=
  if cs ≠ [] ∧ cs.all Char.isDigit then some (Nat.ofDigitChars 10 cs 0) else none

def integer? : List Char → Option Int
  | '-' :: cs => (natural? cs).map fun n => -(n : Int)
  | cs => (natural? cs).map Int.ofNat

theorem natural?_toDigits (n : Nat) : natural? (Nat.toDigits 10 n) = some n := by
  have digits : (Nat.toDigits 10 n).all Char.isDigit = true :=
    List.all_eq_true.2 fun c mem => Nat.isDigit_of_mem_toDigits (by decide) (by decide) mem
  rw [natural?, if_pos ⟨Nat.toDigits_ne_nil, digits⟩, Nat.ofDigitChars_ten_toDigits]

theorem integer?_toDigits (n : Nat) : integer? (Nat.toDigits 10 n) = some (n : Int) := by
  have plain : ∀ cs, Nat.toDigits 10 n ≠ '-' :: cs := by
    intro cs same
    have digit : '-'.isDigit = true :=
      Nat.isDigit_of_mem_toDigits (by decide) (by decide) (same ▸ List.mem_cons_self)
    simp at digit
  unfold integer?
  split
  next cs same => exact absurd same (plain cs)
  next => simp [natural?_toDigits]

theorem integer?_intRepr (n : Int) : integer? n.repr.toList = some n := by
  cases n with
  | ofNat n =>
    rw [Int.repr, Nat.toList_repr]
    exact integer?_toDigits n
  | negSucc n =>
    rw [Int.repr, String.toList_append, Nat.toList_repr]
    simp [integer?, natural?_toDigits, Int.negSucc_eq]

theorem intRepr_injective {m n : Int} (same : m.repr = n.repr) : m = n := by
  have read : integer? m.repr.toList = integer? n.repr.toList := by rw [same]
  rw [integer?_intRepr, integer?_intRepr] at read
  exact Option.some.inj read

end Text

namespace Decimal

theorem isNumeralChar_of_mem_significantDigits {n : Nat} {c : Char}
    (h : c ∈ significantDigits n) : isNumeralChar c = true := by
  rw [significantDigits, List.mem_reverse] at h
  have digits := (List.dropWhile_sublist _).subset h
  exact isNumeralChar_of_mem_toDigits (List.mem_reverse.1 digits)

theorem isNumeralChar_of_mem_positional {digits : List Char}
    (hd : ∀ c ∈ digits, isNumeralChar c = true) {point : Int} {c : Char}
    (h : c ∈ positional digits point) : isNumeralChar c = true := by
  have zero : isNumeralChar '0' = true := by decide
  have dot : isNumeralChar '.' = true := by decide
  unfold positional at h
  split at h
  · simp only [List.mem_cons, List.mem_append, List.mem_replicate] at h
    rcases h with (rfl | rfl | ⟨-, rfl⟩) | h
    · exact zero
    · exact dot
    · exact zero
    · exact hd c h
  · split at h
    · simp only [List.mem_cons, List.mem_append, List.mem_replicate, List.not_mem_nil,
        or_false] at h
      rcases h with (h | ⟨-, rfl⟩) | rfl | rfl
      · exact hd c h
      · exact zero
      · exact dot
      · exact zero
    · simp only [List.mem_cons, List.mem_append] at h
      rcases h with h | rfl | h
      · exact hd c (List.mem_of_mem_take h)
      · exact dot
      · exact hd c (List.mem_of_mem_drop h)

theorem isNumeralChar_of_mem_exponentChars {exponent : Int} {c : Char}
    (h : c ∈ exponentChars exponent) : isNumeralChar c = true := by
  unfold exponentChars at h
  rcases List.mem_cons.1 h with rfl | h
  · split <;> decide
  · split at h
    · rcases List.mem_cons.1 h with rfl | h
      · decide
      · exact isNumeralChar_of_mem_toDigits h
    · exact isNumeralChar_of_mem_toDigits h

theorem isNumeralChar_of_mem_scientific {digits : List Char}
    (hd : ∀ c ∈ digits, isNumeralChar c = true) {exponent : Int} {c : Char}
    (h : c ∈ scientific digits exponent) : isNumeralChar c = true := by
  simp only [scientific, List.mem_append, List.mem_cons] at h
  rcases h with (h | h) | rfl | h
  · exact hd c (List.mem_of_mem_take h)
  · split at h
    · simp at h
    · rcases List.mem_cons.1 h with rfl | h
      · decide
      · exact hd c (List.mem_of_mem_drop h)
  · decide
  · exact isNumeralChar_of_mem_exponentChars h

theorem isNumeralChar_of_mem_chars {d : Decimal} {c : Char} (h : c ∈ d.chars) :
    isNumeralChar c = true := by
  have digits : ∀ x ∈ significantDigits d.significand, isNumeralChar x = true :=
    fun _ => isNumeralChar_of_mem_significantDigits
  simp only [chars] at h
  split at h
  · exact isNumeralChar_of_mem_positional digits h
  · exact isNumeralChar_of_mem_scientific digits h

end Decimal

theorem Binary64.isNumeralChar_of_mem_text {x : Binary64} {c : Char} (h : c ∈ x.text.toList) :
    isNumeralChar c = true := by
  have minus : ∀ negative : Bool, c ∈ (if negative then ['-'] else []) →
      isNumeralChar c = true := by
    rintro (_ | _) h
    · simp at h
    · obtain rfl : c = '-' := by simpa using h
      decide
  rw [Binary64.toList_text] at h
  cases x with
  | nan =>
    simp only [Binary64.chars, List.mem_cons, List.not_mem_nil, or_false] at h
    rcases h with rfl | rfl | rfl <;> decide
  | infinite negative =>
    rcases List.mem_append.1 h with h | h
    · exact minus negative h
    · simp only [List.mem_cons, List.not_mem_nil, or_false] at h
      rcases h with rfl | rfl | rfl <;> decide
  | finite negative units =>
    rcases List.mem_append.1 h with h | h
    · exact minus negative h
    · split at h
      · simp only [List.mem_cons, List.not_mem_nil, or_false] at h
        rcases h with rfl | rfl | rfl <;> decide
      · exact Decimal.isNumeralChar_of_mem_chars h

theorem Value.isNumeralChar_of_mem_display {value : Value} (number : value.isNumber = true)
    {c : Char} (h : c ∈ value.display.toList) : isNumeralChar c = true := by
  cases value with
  | int n => exact isNumeralChar_of_mem_intRepr h
  | float x => exact Binary64.isNumeralChar_of_mem_text h
  | _ => simp [isNumber] at number

end TableSchema
