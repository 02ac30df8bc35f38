import TableSchema.Proofs.Text.BlankText
import TableSchema.Proofs.Text.KeywordWord
import TableSchema.Proofs.Text.LineBreak

/-!
The case of ASCII letters. Changing it makes nothing but a letter of a letter, so a text keeps its
blanks, its lines, its upper case and its lower case.
-/

namespace TableSchema.Text

variable {c : Char} {cs cs' a b : List Char}

/-- The second text is the first one with the case of some ASCII letters changed. -/
def Recased (cs cs' : List Char) : Prop :=
  cs'.map Char.toUpper = cs.map Char.toUpper

instance (cs cs' : List Char) : Decidable (Recased cs cs') :=
  inferInstanceAs (Decidable (_ = _))

def IsCaseless (cs : List Char) : Prop :=
  ∀ c ∈ cs, c.isAlpha = false

instance (cs : List Char) : Decidable (IsCaseless cs) :=
  List.decidableBAll _ cs

section Characters

theorem apply_toUpper {α : Type} {f : Char → α}
    (h : ∀ n < 128, f (Char.ofNat n).toUpper = f (Char.ofNat n)) (c : Char) :
    f c.toUpper = f c := by
  rcases Nat.lt_or_ge c.toNat 128 with ascii | large
  · exact forall_ascii (p := fun c => f c.toUpper = f c) h c ascii
  · rw [toUpper_of_large large]

@[simp] theorem isBlank_toUpper (c : Char) : isBlank c.toUpper = isBlank c :=
  apply_toUpper (by decide +kernel) c

@[simp] theorem isLineBreak_toUpper (c : Char) : isLineBreak c.toUpper = isLineBreak c :=
  apply_toUpper (by decide +kernel) c

@[simp] theorem upperChar_toUpper (c : Char) : upperChar c.toUpper = upperChar c :=
  apply_toUpper (by decide +kernel) c

@[simp] theorem lowerChar_toUpper (c : Char) : lowerChar c.toUpper = lowerChar c :=
  apply_toUpper (by decide +kernel) c

@[simp] theorem isCased_toUpper (c : Char) : isCased c.toUpper = isCased c :=
  apply_toUpper (by decide +kernel) c

@[simp] theorem isCaseIgnorable_toUpper (c : Char) :
    isCaseIgnorable c.toUpper = isCaseIgnorable c :=
  apply_toUpper (by decide +kernel) c

theorem toUpper_eq_iff {plain : Char} (h : plain.isAlpha = false) (c : Char) :
    c.toUpper = plain ↔ c = plain := by
  have letter : c.toUpper = c ∨ (c.isAlpha = true ∧ c.toUpper.isAlpha = true) := by
    rcases Nat.lt_or_ge c.toNat 128 with ascii | large
    · refine forall_ascii
        (p := fun c => c.toUpper = c ∨ (c.isAlpha = true ∧ c.toUpper.isAlpha = true)) ?_ c ascii
      decide +kernel
    · exact .inl (toUpper_of_large large)
  rcases letter with same | ⟨lower, upper⟩
  · rw [same]
  · constructor
    · rintro rfl
      exact absurd upper (by simp [h])
    · rintro rfl
      exact absurd lower (by simp [h])

end Characters

section Whole

theorem IsBlankText.isCaseless (h : IsBlankText cs) : IsCaseless cs := by
  intro c hc
  by_contra letter
  have identifier : isIdentifierChar c = true := by
    simp only [Bool.not_eq_false] at letter
    simp [isIdentifierChar, Char.isAlphanum, letter]
  have plain := isBlank_of_identifierChar identifier
  rw [h c hc] at plain
  exact absurd plain (by decide)

theorem dropWhile_isBlank_map_toUpper (cs : List Char) :
    (cs.map Char.toUpper).dropWhile isBlank = (cs.dropWhile isBlank).map Char.toUpper := by
  rw [List.dropWhile_map]
  congr 2
  exact funext isBlank_toUpper

theorem stripChars_map_toUpper (cs : List Char) :
    stripChars (cs.map Char.toUpper) = (stripChars cs).map Char.toUpper := by
  simp only [stripChars, dropWhile_isBlank_map_toUpper, ← List.map_reverse]

theorem upperChars_map_toUpper (cs : List Char) :
    upperChars (cs.map Char.toUpper) = upperChars cs := by
  induction cs with
  | nil => rfl
  | cons c cs ih => rw [List.map_cons, upperChars_cons, upperChars_cons, upperChar_toUpper, ih]

theorem startsCased_map_toUpper (cs : List Char) :
    startsCased (cs.map Char.toUpper) = startsCased cs := by
  induction cs with
  | nil => rfl
  | cons c cs ih =>
    unfold startsCased at ih ⊢
    rw [List.map_cons, List.dropWhile_cons, List.dropWhile_cons, isCaseIgnorable_toUpper]
    cases isCaseIgnorable c with
    | true => exact ih
    | false => exact isCased_toUpper c

theorem lowerFrom_map_toUpper (inWord : Bool) (cs : List Char) :
    lowerFrom inWord (cs.map Char.toUpper) = lowerFrom inWord cs := by
  induction cs generalizing inWord with
  | nil => rfl
  | cons c cs ih =>
    have sigma : c.toUpper = 'Σ' ↔ c = 'Σ' := toUpper_eq_iff (by decide) c
    simp only [List.map_cons, lowerFrom, sigma, startsCased_map_toUpper, lowerChar_toUpper,
      isCaseIgnorable_toUpper, isCased_toUpper, ih]

theorem lines_map_toUpper (cs : List Char) :
    lines (cs.map Char.toUpper) = (lines cs).map (List.map Char.toUpper) := by
  have apart {c : Char} {cs : List Char} (single : ∀ rest, c = '\r' → cs = '\n' :: rest → False) :
      ∀ rest, c.toUpper = '\r' → cs.map Char.toUpper = '\n' :: rest → False := by
    intro rest carriage feed
    obtain ⟨next, others, rfl, image, -⟩ := List.map_eq_cons_iff.1 feed
    obtain rfl := (toUpper_eq_iff (by decide) next).1 image
    exact single others ((toUpper_eq_iff (by decide) c).1 carriage) rfl
  fun_induction lines cs with
  | case1 => rfl
  | case2 cs ih =>
    have breaks : ('\r' :: '\n' :: cs).map Char.toUpper = '\r' :: '\n' :: cs.map Char.toUpper := rfl
    rw [breaks, lines, ih]
    rfl
  | case3 c cs single ends ih =>
    have upper : isLineBreak c.toUpper = true := by rwa [isLineBreak_toUpper]
    rw [List.map_cons, lines_of_break (apart single) upper, ih]
    rfl
  | case4 c cs single plain none ih =>
    obtain rfl : cs = [] := by
      by_contra nonempty
      exact lines_ne_nil nonempty none
    simp [lines, plain]
  | case5 c cs single plain line rest found ih =>
    have upper : isLineBreak c.toUpper = false := by simpa using plain
    rw [found, List.map_cons] at ih
    rw [List.map_cons, lines_of_plain upper ih]
    rfl

end Whole

namespace Recased

theorem stripChars (h : Recased cs cs') : Recased (stripChars cs) (stripChars cs') := by
  rw [Recased, ← stripChars_map_toUpper, ← stripChars_map_toUpper, h]

theorem upperChars_eq (h : Recased cs cs') : upperChars cs' = upperChars cs := by
  rw [← upperChars_map_toUpper, h, upperChars_map_toUpper]

theorem lowerChars_eq (h : Recased cs cs') : lowerChars cs' = lowerChars cs := by
  rw [lowerChars, lowerChars, ← lowerFrom_map_toUpper, h, lowerFrom_map_toUpper]

theorem eq_of_caseless (caseless : IsCaseless cs) (h : Recased cs cs') : cs' = cs := by
  induction cs generalizing cs' with
  | nil => exact List.map_eq_nil_iff.1 h
  | cons c cs ih =>
    obtain ⟨first, others⟩ := List.forall_mem_cons.1 caseless
    obtain ⟨c', rest, rfl, image, rest'⟩ := List.map_eq_cons_iff.1 h
    have same : c.toUpper = c := (toUpper_eq_iff first c).2 rfl
    rw [same, toUpper_eq_iff first] at image
    rw [image, ih others rest']

theorem append_inv (h : Recased (a ++ b) cs') :
    ∃ a' b', cs' = a' ++ b' ∧ Recased a a' ∧ Recased b b' := by
  rw [Recased, List.map_append] at h
  exact List.map_eq_append_iff.1 h

theorem caseless_append_inv (caseless : IsCaseless a) (h : Recased (a ++ b) cs') :
    ∃ b', cs' = a ++ b' ∧ Recased b b' := by
  obtain ⟨a', b', rfl, same, recased⟩ := h.append_inv
  exact ⟨b', by rw [same.eq_of_caseless caseless], recased⟩

end Recased

end TableSchema.Text
