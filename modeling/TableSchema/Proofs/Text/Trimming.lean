import TableSchema.Proofs.Text.BlankText
import TableSchema.Proofs.Text.Uppering

/-!
Text without blanks at its ends. Stripping once is enough, and it makes no difference whether a text
is stripped before or after it is given in upper case, as no blank comes from anything but itself.
-/

namespace TableSchema.Text

variable {a c : Char} {cs : List Char}

section Strip

theorem exists_padding (cs : List Char) :
    ∃ before after, IsBlankText before ∧ IsBlankText after ∧
      cs = before ++ (stripChars cs ++ after) := by
  have blank (cs : List Char) : IsBlankText (cs.takeWhile isBlank) := fun _ =>
    List.mem_takeWhile_imp
  refine ⟨cs.takeWhile isBlank, ((cs.dropWhile isBlank).reverse.takeWhile isBlank).reverse,
    blank cs, fun c hc => blank _ c (List.mem_reverse.1 hc), ?_⟩
  rw [stripChars, ← List.reverse_append, List.takeWhile_append_dropWhile, List.reverse_reverse,
    List.takeWhile_append_dropWhile]

theorem stripChars_stripChars (cs : List Char) : stripChars (stripChars cs) = stripChars cs := by
  obtain ⟨before, after, front, back, split⟩ := exists_padding cs
  have padded := stripChars_padded front back (stripChars cs)
  rw [← split] at padded
  exact padded.symm

theorem strip_strip (s : String) : strip (strip s) = strip s := by
  rw [← String.toList_inj, toList_strip (strip s), toList_strip, stripChars_stripChars]

end Strip

section Upper

theorem upperRuns_apart_blanks : ∀ r ∈ upperRuns, ∀ b ∈ blankRanges,
    r.target + (r.last - r.first) < b.first ∨ b.last < r.target := by
  decide +kernel

theorem isBlank_expansion : ∀ entry ∈ upperExpansions, ∀ n ∈ entry.2,
    isBlank (Char.ofNat n) = false := by
  decide +kernel

theorem isBlank_ofNat_caseImage (plain : isBlank a = false) :
    isBlank (Char.ofNat (caseImage upperRuns a.toNat)) = false := by
  by_cases valid : (caseImage upperRuns a.toNat).isValidChar
  · rcases caseImage_cases upperRuns a.toNat with same | ⟨r, hr, first, last, -, image⟩
    · rwa [same, Char.ofNat_toNat]
    · refine Bool.eq_false_iff.2 fun blank => ?_
      obtain ⟨b, hb, low, high⟩ := (inRanges_iff blankRanges _).1 blank
      rw [toNat_ofNat_of_valid valid] at low high
      have apart := upperRuns_apart_blanks r hr b hb
      omega
  · rw [Char.ofNat, dif_neg valid]
    decide

theorem isBlank_of_mem_upperChar (h : c ∈ upperChar a) : isBlank c = isBlank a := by
  cases blank : isBlank a with
  | true =>
    rw [upperChar_of_isBlank blank, List.mem_singleton] at h
    rw [h, blank]
  | false =>
    rcases upperChar_forms a with ⟨ascii, capital⟩ | ⟨entry, listed, expanded⟩ | ⟨-, -, moved⟩
    · rw [capital, List.mem_singleton] at h
      subst h
      refine forall_ascii (p := fun a => isBlank a = false → isBlank a.toUpper = false) ?_ a ascii
        blank
      decide +kernel
    · rw [expanded] at h
      obtain ⟨n, mem, rfl⟩ := List.mem_map.1 h
      exact isBlank_expansion entry listed n mem
    · rw [moved] at h
      rw [List.mem_singleton.1 h]
      exact isBlank_ofNat_caseImage blank

theorem upperChar_ne_nil (a : Char) : upperChar a ≠ [] := by
  have full : ∀ entry ∈ upperExpansions, entry.2.map Char.ofNat ≠ [] := by decide +kernel
  rcases upperChar_forms a with ⟨-, capital⟩ | ⟨entry, listed, expanded⟩ | ⟨-, -, moved⟩
  · rw [capital]
    exact List.cons_ne_nil _ _
  · rw [expanded]
    exact full entry listed
  · rw [moved]
    exact List.cons_ne_nil _ _

theorem dropWhile_isBlank_flatMap (image : Char → List Char)
    (blank : ∀ a, isBlank a = true → image a = [a])
    (solid : ∀ a, isBlank a = false → image a ≠ [] ∧ ∀ c ∈ image a, isBlank c = false)
    (cs : List Char) :
    (cs.flatMap image).dropWhile isBlank = (cs.dropWhile isBlank).flatMap image := by
  induction cs with
  | nil => rfl
  | cons a cs ih =>
    cases ha : isBlank a with
    | true =>
      rw [List.flatMap_cons, blank a ha, List.singleton_append, List.dropWhile_cons_of_pos ha,
        List.dropWhile_cons_of_pos ha, ih]
    | false =>
      obtain ⟨nonempty, plain⟩ := solid a ha
      obtain ⟨c, others, chars⟩ := List.exists_cons_of_ne_nil nonempty
      have first : ¬ isBlank c = true := by simp [plain c (by simp [chars])]
      rw [List.dropWhile_cons_of_neg (by simp [ha]), List.flatMap_cons, chars, List.cons_append,
        List.dropWhile_cons_of_neg first]

theorem stripChars_upperChars (cs : List Char) :
    stripChars (upperChars cs) = upperChars (stripChars cs) := by
  have front := dropWhile_isBlank_flatMap upperChar (fun _ => upperChar_of_isBlank)
    (fun a plain => ⟨upperChar_ne_nil a, fun c hc => (isBlank_of_mem_upperChar hc).trans plain⟩)
  have back := dropWhile_isBlank_flatMap (List.reverse ∘ upperChar)
    (fun a blank => by simp [upperChar_of_isBlank blank])
    (fun a plain => ⟨by simp [upperChar_ne_nil a], fun c hc =>
      (isBlank_of_mem_upperChar (List.mem_reverse.1 hc)).trans plain⟩)
  rw [stripChars, stripChars, upperChars, upperChars, front, List.reverse_flatMap, back,
    List.flatMap_reverse]

theorem strip_upper (s : String) : strip (upper s) = upper (strip s) := by
  rw [← String.toList_inj, toList_strip, toList_upper, toList_upper, toList_strip,
    stripChars_upperChars]

end Upper

end TableSchema.Text
