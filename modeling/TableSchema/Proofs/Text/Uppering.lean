import TableSchema.Proofs.Text.Lowering

/-!
Text in upper case. Its ASCII characters come from ASCII characters, from the dotless i and the long
s, and from characters like the ligatures whose upper case is several letters. Upper case given once
is enough: no character of the result is moved again.
-/

namespace TableSchema.Text

theorem upperRuns_targets : ∀ r ∈ upperRuns,
    r = ⟨0x131, 0x131, 1, 0x49⟩ ∨ r = ⟨0x17F, 0x17F, 1, 0x53⟩ ∨ 128 ≤ r.target := by
  have checked : (upperRuns.all fun r =>
      decide (r = ⟨0x131, 0x131, 1, 0x49⟩ ∨ r = ⟨0x17F, 0x17F, 1, 0x53⟩ ∨ 128 ≤ r.target)) =
        true := by
    decide +kernel
  intro r hr
  exact of_decide_eq_true (List.all_eq_true.1 checked r hr)

theorem eq_of_caseImage_upperRuns_lt {a : Char} (wide : ¬ a.toNat < 128)
    (ascii : caseImage upperRuns a.toNat < 128) : a = 'ı' ∨ a = 'ſ' := by
  rcases caseImage_cases upperRuns a.toNat with same | ⟨r, hr, first, last, -, image⟩
  · omega
  · rcases upperRuns_targets r hr with rfl | rfl | target
    · exact .inl (Char.toNat_inj.1 (Nat.le_antisymm last first))
    · exact .inr (Char.toNat_inj.1 (Nat.le_antisymm last first))
    · omega

/-- No ASCII character but the zero one, which also stands for code points that are not valid. -/
def IsForeign (c : Char) : Prop :=
  c = '\x00' ∨ 128 ≤ c.toNat

theorem isForeign_ofNat {n : Nat} (h : 128 ≤ n) : IsForeign (Char.ofNat n) := by
  by_cases valid : n.isValidChar
  · exact .inr (by rwa [toNat_ofNat_of_valid valid])
  · exact .inl (dif_neg valid)

theorem upperChar_forms (a : Char) :
    a.toNat < 128 ∧ upperChar a = [a.toUpper] ∨
      (∃ entry ∈ upperExpansions, upperChar a = entry.2.map Char.ofNat) ∨
      ¬ a.toNat < 128 ∧ upperExpansions.lookup a.toNat = none ∧
        upperChar a = [Char.ofNat (caseImage upperRuns a.toNat)] := by
  by_cases ascii : a.toNat < 128
  · exact .inl ⟨ascii, upperChar_of_ascii ascii⟩
  unfold upperChar
  rw [if_neg ascii]
  split
  next image found =>
    obtain ⟨before, after, split, -⟩ := List.lookup_eq_some_iff.1 found
    exact .inr (.inl ⟨(a.toNat, image), by simp [split], rfl⟩)
  next absent => exact .inr (.inr ⟨ascii, absent, rfl⟩)

theorem upperChar_cases {a : Char} (wide : ¬ a.toNat < 128) :
    a = 'ı' ∨ a = 'ſ' ∨ (∃ entry ∈ upperExpansions, upperChar a = entry.2.map Char.ofNat) ∨
      ∃ c ∈ upperChar a, IsForeign c := by
  rcases upperChar_forms a with ⟨ascii, -⟩ | expanded | ⟨-, -, moved⟩
  · exact absurd ascii wide
  · exact .inr (.inr (.inl expanded))
  · by_cases ascii : caseImage upperRuns a.toNat < 128
    · exact (eq_of_caseImage_upperRuns_lt wide ascii).imp_right .inl
    · exact .inr (.inr (.inr ⟨_, moved ▸ List.mem_singleton_self _, isForeign_ofNat (by omega)⟩))

theorem upperChars_of_ascii {cs : List Char} (h : ∀ c ∈ cs, c.toNat < 128) :
    upperChars cs = cs.map Char.toUpper := by
  induction cs with
  | nil => rfl
  | cons c cs ih =>
    obtain ⟨first, others⟩ := List.forall_mem_cons.1 h
    rw [upperChars_cons, upperChar_of_ascii first, ih others]
    rfl

theorem upperChar_infix_of_mem {cs : List Char} {c : Char} (h : c ∈ cs) :
    upperChar c <:+: upperChars cs := by
  obtain ⟨before, after, rfl⟩ := List.append_of_mem h
  rw [upperChars_append, upperChars_cons, ← List.append_assoc]
  exact ⟨upperChars before, upperChars after, rfl⟩

section Twice

def expandedRuns : List CaseRun :=
  upperExpansions.map fun entry => ⟨entry.1, entry.1, 1, entry.1⟩

theorem upperRuns_alternates : ∀ r ∈ upperRuns, ∀ q ∈ expandedRuns ++ upperRuns,
    r.meets q = true → r.alternates q = true := by
  have checked : (upperRuns.all fun r =>
      ((expandedRuns ++ upperRuns).filter r.meets).all r.alternates) = true := by
    decide +kernel
  intro r hr q hq meets
  have others := List.all_eq_true.1 checked r hr
  exact List.all_eq_true.1 others q (List.mem_filter.2 ⟨hq, meets⟩)

theorem upperChar_of_mem_expansion : ∀ entry ∈ upperExpansions, ∀ n ∈ entry.2,
    upperChar (Char.ofNat n) = [Char.ofNat n] := by
  decide +kernel

theorem caseImage_upperRuns_image {r : CaseRun} (hr : r ∈ upperRuns) {n m : Nat}
    (first : r.first ≤ n) (last : n ≤ r.last) (member : (n - r.first) % r.step = 0)
    (image : m = r.target + (n - r.first)) : caseImage upperRuns m = m := by
  rcases caseImage_cases upperRuns m with same | ⟨q, hq, first', last', member', -⟩
  · exact same
  · have apart := upperRuns_alternates r hr q (List.mem_append_right _ hq)
    exact absurd member' (image_not_member apart first last member image first' last')

theorem lookup_upperExpansions_image {r : CaseRun} (hr : r ∈ upperRuns) {n m : Nat}
    (first : r.first ≤ n) (last : n ≤ r.last) (member : (n - r.first) % r.step = 0)
    (image : m = r.target + (n - r.first)) : upperExpansions.lookup m = none := by
  refine List.lookup_eq_none_iff.2 fun entry mem => bne_iff_ne.2 ?_
  rintro rfl
  have listed : ⟨entry.1, entry.1, 1, entry.1⟩ ∈ expandedRuns := List.mem_map.2 ⟨entry, mem, rfl⟩
  have apart := upperRuns_alternates r hr _ (List.mem_append_left _ listed)
  exact image_not_member apart first last member image (Nat.le_refl _) (Nat.le_refl _)
    (Nat.mod_one _)

theorem upperChar_of_mem_upperChar {a c : Char} (h : c ∈ upperChar a) : upperChar c = [c] := by
  rcases upperChar_forms a with ⟨ascii, capital⟩ | ⟨entry, listed, expanded⟩ | ⟨wide, absent, moved⟩
  · rw [capital, List.mem_singleton] at h
    subst h
    refine forall_ascii (p := fun a => upperChar a.toUpper = [a.toUpper]) ?_ a ascii
    decide +kernel
  · rw [expanded] at h
    obtain ⟨n, mem, rfl⟩ := List.mem_map.1 h
    exact upperChar_of_mem_expansion entry listed n mem
  · rw [moved] at h
    have code := List.mem_singleton.1 h
    rcases caseImage_cases upperRuns a.toNat with fixed | ⟨r, hr, first, last, member, image⟩
    · obtain rfl : c = a := by rw [code, fixed, Char.ofNat_toNat]
      rw [moved, ← code]
    by_cases valid : (caseImage upperRuns a.toNat).isValidChar
    · have there : c.toNat = caseImage upperRuns a.toNat := by
        rw [code, toNat_ofNat_of_valid valid]
      by_cases small : c.toNat < 128
      · rcases eq_of_caseImage_upperRuns_lt wide (there ▸ small) with rfl | rfl <;>
          (subst code; decide +kernel)
      · have unexpanded := lookup_upperExpansions_image hr first last member (there.trans image)
        have unmoved := caseImage_upperRuns_image hr first last member (there.trans image)
        rw [upperChar, if_neg small, unexpanded, unmoved, Char.ofNat_toNat]
    · obtain rfl : c = '\x00' := code.trans (dif_neg valid)
      decide +kernel

theorem upperChars_upperChars (cs : List Char) : upperChars (upperChars cs) = upperChars cs := by
  have fixed (image : List Char) (h : ∀ c ∈ image, upperChar c = [c]) :
      upperChars image = image := by
    induction image with
    | nil => rfl
    | cons c image ih =>
      obtain ⟨first, others⟩ := List.forall_mem_cons.1 h
      rw [upperChars_cons, first, ih others]
      rfl
  induction cs with
  | nil => rfl
  | cons c cs ih =>
    rw [upperChars_cons, upperChars_append, ih, fixed _ fun _ => upperChar_of_mem_upperChar]

theorem upper_upper (s : String) : upper (upper s) = upper s := by
  rw [← String.toList_inj, toList_upper (upper s), toList_upper, upperChars_upperChars]

end Twice

end TableSchema.Text
