import Mathlib.Data.List.TakeWhile
import TableSchema.Text.Blank
import TableSchema.Text.Case

/-!
Blanks around a text and texts of blanks alone. Stripping takes off whatever blanks there are at the
two ends, and blanks are the same in upper case.
-/

namespace TableSchema.Text

variable {c : Char} {cs a b : List Char}

def IsBlankText (cs : List Char) : Prop :=
  ∀ c ∈ cs, isBlank c = true

instance (cs : List Char) : Decidable (IsBlankText cs) :=
  List.decidableBAll _ cs

theorem IsBlankText.append (ha : IsBlankText a) (hb : IsBlankText b) : IsBlankText (a ++ b) :=
  List.forall_mem_append.2 ⟨ha, hb⟩

theorem IsBlankText.not_mem (h : IsBlankText cs) (hc : isBlank c = false) : c ∉ cs := by
  intro mem
  rw [h c mem] at hc
  exact absurd hc (by decide)

section Strip

theorem dropWhile_isBlank_eq_self (h : cs.head?.any isBlank = false) :
    cs.dropWhile isBlank = cs := by
  cases cs with
  | nil => rfl
  | cons c cs =>
    have plain : isBlank c = false := by simpa using h
    simp [plain]

theorem stripChars_eq_self (first : cs.head?.any isBlank = false)
    (last : cs.getLast?.any isBlank = false) : stripChars cs = cs := by
  have reversed : cs.reverse.head?.any isBlank = false := by rwa [List.head?_reverse]
  rw [stripChars, dropWhile_isBlank_eq_self first, dropWhile_isBlank_eq_self reversed,
    List.reverse_reverse]

theorem strip_eq_self {s : String} (first : s.toList.head?.any isBlank = false)
    (last : s.toList.getLast?.any isBlank = false) : strip s = s := by
  rw [strip, stripChars_eq_self first last, String.ofList_toList]

theorem stripChars_eq_nil_iff (cs : List Char) : stripChars cs = [] ↔ IsBlankText cs := by
  unfold stripChars
  rw [List.reverse_eq_nil_iff, List.dropWhile_eq_nil_iff]
  constructor
  · intro rest
    have nothing : cs.dropWhile isBlank = [] := by
      cases left : cs.dropWhile isBlank with
      | nil => rfl
      | cons c others =>
        have blank : isBlank c = true := rest c (by simp [left])
        have stop := List.head?_dropWhile_not isBlank cs
        rw [left] at stop
        simp [blank] at stop
    exact List.dropWhile_eq_nil_iff.1 nothing
  · intro blank
    rw [List.dropWhile_eq_nil_iff.2 blank]
    simp

theorem stripChars_padded (ha : IsBlankText a) (hb : IsBlankText b) (cs : List Char) :
    stripChars (a ++ (cs ++ b)) = stripChars cs := by
  have behind : b.reverse.dropWhile isBlank = [] :=
    List.dropWhile_eq_nil_iff.2 fun c hc => hb c (List.mem_reverse.1 hc)
  unfold stripChars
  rw [List.dropWhile_append_of_pos ha, List.dropWhile_append]
  cases left : cs.dropWhile isBlank with
  | nil =>
    rw [List.isEmpty_nil, if_pos rfl, List.dropWhile_eq_nil_iff.2 hb]
  | cons c others =>
    rw [List.isEmpty_cons, if_neg Bool.false_ne_true, List.reverse_append, List.dropWhile_append,
      behind, List.isEmpty_nil, if_pos rfl]

theorem strip_padded {before after : String} (ha : IsBlankText before.toList)
    (hb : IsBlankText after.toList) (s : String) : strip (before ++ s ++ after) = strip s := by
  rw [strip, strip, String.toList_append, String.toList_append, List.append_assoc,
    stripChars_padded ha hb]

end Strip

section Upper

def blankCodes : List Nat :=
  blankRanges.flatMap fun r => List.range' r.first (r.last + 1 - r.first)

theorem toNat_mem_blankCodes (h : isBlank c = true) : c.toNat ∈ blankCodes := by
  obtain ⟨r, hr, first, last⟩ := (inRanges_iff blankRanges c.toNat).1 h
  refine List.mem_flatMap.2 ⟨r, hr, ?_⟩
  rw [List.mem_range'_1]
  omega

theorem upperChar_of_isBlank (h : isBlank c = true) : upperChar c = [c] := by
  have checked : ∀ n ∈ blankCodes, upperChar (Char.ofNat n) = [Char.ofNat n] := by
    decide +kernel
  have image := checked c.toNat (toNat_mem_blankCodes h)
  rwa [Char.ofNat_toNat] at image

theorem upperChars_of_isBlankText (h : IsBlankText cs) : upperChars cs = cs := by
  induction cs with
  | nil => rfl
  | cons c cs ih =>
    obtain ⟨first, others⟩ := List.forall_mem_cons.1 h
    rw [upperChars_cons, upperChar_of_isBlank first, ih others]
    rfl

end Upper

end TableSchema.Text
