import Mathlib.Data.List.Basic
import TableSchema.Text.Case
import TableSchema.Verification.InsertTarget

/-!
Identifiers of ASCII letters, digits and underscores. They stay identifiers in lower case, and no
character that marks off a part of a statement stands in one.
-/

namespace TableSchema.Text

open Verification (isIdentifier)

theorem forall_ascii {p : Char → Prop} (h : ∀ n < 128, p (Char.ofNat n)) (c : Char)
    (hc : c.toNat < 128) : p c := by
  have atCode := h c.toNat hc
  rwa [Char.ofNat_toNat] at atCode

def IsIdentifier (s : String) : Prop :=
  isIdentifier s.toList = true

instance (s : String) : Decidable (IsIdentifier s) :=
  inferInstanceAs (Decidable (_ = _))

theorem isIdentifier_cons_iff (c : Char) (cs : List Char) :
    isIdentifier (c :: cs) = true ↔
      isIdentifierStart c = true ∧ ∀ x ∈ cs, isIdentifierChar x = true := by
  simp [isIdentifier]

theorem ne_nil_of_isIdentifier {cs : List Char} (h : isIdentifier cs = true) : cs ≠ [] := by
  rintro rfl
  simp [isIdentifier] at h

theorem identifierChar_of_mem {cs : List Char} (h : isIdentifier cs = true) {c : Char}
    (hc : c ∈ cs) : isIdentifierChar c = true := by
  cases cs with
  | nil => simp at hc
  | cons first rest =>
    obtain ⟨start, others⟩ := (isIdentifier_cons_iff first rest).1 h
    rcases List.mem_cons.1 hc with rfl | hc
    · exact isIdentifierChar_of_start start
    · exact others c hc

theorem not_mem_of_isIdentifier {cs : List Char} (h : isIdentifier cs = true) {c : Char}
    (hc : isIdentifierChar c = false) : c ∉ cs := by
  intro mem
  have identifier := identifierChar_of_mem h mem
  rw [hc] at identifier
  exact absurd identifier (by simp)

theorem IsIdentifier.append {s t : String} (hs : IsIdentifier s)
    (ht : t.toList.all isIdentifierChar = true) : IsIdentifier (s ++ t) := by
  obtain ⟨c, cs, chars⟩ := List.exists_cons_of_ne_nil (ne_nil_of_isIdentifier hs)
  rw [IsIdentifier, chars, isIdentifier_cons_iff] at hs
  rw [IsIdentifier, String.toList_append, chars, List.cons_append, isIdentifier_cons_iff]
  refine ⟨hs.1, fun x hx => ?_⟩
  rcases List.mem_append.1 hx with mem | mem
  · exact hs.2 x mem
  · exact List.all_eq_true.1 ht x mem

theorem all_isIdentifierChar {cs : List Char} (h : isIdentifier cs = true) :
    cs.all isIdentifierChar = true :=
  List.all_eq_true.2 fun _ => identifierChar_of_mem h

theorem isIdentifierStart_toLower {c : Char} (h : isIdentifierStart c = true) :
    isIdentifierStart c.toLower = true := by
  have ascii := toNat_lt_of_identifierChar (isIdentifierChar_of_start h)
  refine forall_ascii (p := fun c => isIdentifierStart c = true →
    isIdentifierStart c.toLower = true) ?_ c ascii h
  decide

theorem isIdentifierChar_toLower {c : Char} (h : isIdentifierChar c = true) :
    isIdentifierChar c.toLower = true := by
  refine forall_ascii (p := fun c => isIdentifierChar c = true →
    isIdentifierChar c.toLower = true) ?_ c (toNat_lt_of_identifierChar h) h
  decide

theorem lowerFrom_of_not_mem (inWord : Bool) {cs : List Char} (noSigma : 'Σ' ∉ cs) :
    lowerFrom inWord cs = cs.flatMap lowerChar := by
  induction cs generalizing inWord with
  | nil => rfl
  | cons c cs ih =>
    have first : c ≠ 'Σ' := fun sigma => noSigma (by simp [sigma])
    have rest := ih (if isCaseIgnorable c then inWord else isCased c)
      fun mem => noSigma (List.mem_cons_of_mem c mem)
    simp only [lowerFrom, if_neg first, rest, List.flatMap_cons]

theorem lowerChars_of_ascii {cs : List Char} (h : ∀ c ∈ cs, c.toNat < 128) :
    lowerChars cs = cs.map Char.toLower := by
  have noSigma : 'Σ' ∉ cs := fun mem => absurd (h 'Σ' mem) (by decide)
  rw [lowerChars, lowerFrom_of_not_mem false noSigma, List.map_eq_flatMap]
  exact List.flatMap_congr fun c mem => lowerChar_of_ascii (h c mem)

theorem lowerChars_of_isIdentifier {cs : List Char} (h : isIdentifier cs = true) :
    lowerChars cs = cs.map Char.toLower :=
  lowerChars_of_ascii fun _ hc => toNat_lt_of_identifierChar (identifierChar_of_mem h hc)

theorem isIdentifier_lowerChars {cs : List Char} (h : isIdentifier cs = true) :
    isIdentifier (lowerChars cs) = true := by
  rw [lowerChars_of_isIdentifier h]
  cases cs with
  | nil => exact h
  | cons c cs =>
    obtain ⟨start, others⟩ := (isIdentifier_cons_iff c cs).1 h
    rw [List.map_cons, isIdentifier_cons_iff]
    refine ⟨isIdentifierStart_toLower start, fun x hx => ?_⟩
    obtain ⟨y, hy, rfl⟩ := List.mem_map.1 hx
    exact isIdentifierChar_toLower (others y hy)

theorem IsIdentifier.lower {s : String} (h : IsIdentifier s) : IsIdentifier (lower s) := by
  rw [IsIdentifier, toList_lower]
  exact isIdentifier_lowerChars h

end TableSchema.Text
