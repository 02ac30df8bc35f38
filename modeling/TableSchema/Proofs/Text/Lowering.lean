import TableSchema.Proofs.Text.Identifier

/-!
Text in lower case. Where its ASCII characters come from: from ASCII characters, but for the dotted
capital I and the kelvin sign, so no mark is ever made by lowering. And lowering once is enough:
no character of a lowered text is moved again, nor is any of them a capital sigma.
-/

namespace TableSchema.Text

theorem lowerRuns_targets : ∀ r ∈ lowerRuns,
    (r = ⟨0x212A, 0x212A, 1, 0x6B⟩ ∨ 128 ≤ r.target) ∧
      (r.target + (r.last - r.first)).isValidChar ∧ (r.target < 0xD800 ∨ 0xE000 ≤ r.target) ∧
      (r.target < 0xD800 → r.target + (r.last - r.first) < 0xD800) := by
  have checked : (lowerRuns.all fun r =>
      decide ((r = ⟨0x212A, 0x212A, 1, 0x6B⟩ ∨ 128 ≤ r.target) ∧
        (r.target + (r.last - r.first)).isValidChar ∧ (r.target < 0xD800 ∨ 0xE000 ≤ r.target) ∧
        (r.target < 0xD800 → r.target + (r.last - r.first) < 0xD800))) = true := by
    decide +kernel
  intro r hr
  exact of_decide_eq_true (List.all_eq_true.1 checked r hr)

theorem caseImage_cases (table : List CaseRun) (n : Nat) :
    caseImage table n = n ∨ ∃ r ∈ table, r.first ≤ n ∧ n ≤ r.last ∧
      (n - r.first) % r.step = 0 ∧ caseImage table n = r.target + (n - r.first) := by
  unfold caseImage
  cases h : table.findSome? (·.image? n) with
  | none => exact .inl rfl
  | some m =>
    obtain ⟨r, hr, image⟩ := List.exists_of_findSome?_eq_some h
    unfold CaseRun.image? at image
    split at image
    next inside =>
      obtain rfl : r.target + (n - r.first) = m := by simpa using image
      exact .inr ⟨r, hr, inside.1, inside.2.1, inside.2.2, rfl⟩
    next => simp at image

theorem toNat_ofNat_of_valid {n : Nat} (h : n.isValidChar) : (Char.ofNat n).toNat = n := by
  have valid : Char.ofNat n = Char.ofNatAux n h := dif_pos h
  rw [valid]
  rfl

theorem isValidChar_caseImage (a : Char) : (caseImage lowerRuns a.toNat).isValidChar := by
  rcases caseImage_cases lowerRuns a.toNat with same | ⟨r, hr, first, last, -, image⟩
  · rw [same]
    exact a.valid
  · obtain ⟨-, valid, side, bounded⟩ := lowerRuns_targets r hr
    simp only [Nat.isValidChar] at valid ⊢
    omega

theorem caseImage_lt_iff {a : Char} (wide : ¬ a.toNat < 128) :
    caseImage lowerRuns a.toNat < 128 ↔ a.toNat = 0x212A := by
  constructor
  · intro ascii
    rcases caseImage_cases lowerRuns a.toNat with same | ⟨r, hr, first, last, -, image⟩
    · omega
    · obtain ⟨rfl | target, -⟩ := lowerRuns_targets r hr
      · simp only at first last
        omega
      · omega
  · intro kelvin
    rw [kelvin]
    decide +kernel

theorem eq_of_mem_lowerChar {a c : Char} (h : c ∈ lowerChar a) (hc : c.toNat < 128) :
    (a.toNat < 128 ∧ c = a.toLower) ∨ (a = 'İ' ∧ c = 'i') ∨ (a = '\u212A' ∧ c = 'k') := by
  unfold lowerChar at h
  split at h
  next ascii => exact .inl ⟨ascii, by simpa using h⟩
  next wide =>
  split at h
  next dotted =>
    have capital : a = 'İ' := Char.toNat_inj.1 dotted
    simp only [List.mem_cons, List.not_mem_nil, or_false] at h
    rcases h with rfl | rfl
    · exact .inr (.inl ⟨capital, rfl⟩)
    · exact absurd hc (by decide)
  next =>
    obtain rfl : c = Char.ofNat (caseImage lowerRuns a.toNat) := by simpa using h
    rw [toNat_ofNat_of_valid (isValidChar_caseImage a)] at hc
    have kelvin := (caseImage_lt_iff wide).1 hc
    refine .inr (.inr ⟨Char.toNat_inj.1 kelvin, ?_⟩)
    rw [kelvin]
    decide +kernel

theorem mem_lowerFrom {inWord : Bool} {cs : List Char} {c : Char} (h : c ∈ lowerFrom inWord cs) :
    c = 'ς' ∨ c = 'σ' ∨ ∃ a ∈ cs, c ∈ lowerChar a := by
  induction cs generalizing inWord with
  | nil => simp [lowerFrom] at h
  | cons a cs ih =>
    simp only [lowerFrom, List.mem_append] at h
    rcases h with h | h
    · split at h
      · split at h
        · exact .inl (by simpa using h)
        · exact .inr (.inl (by simpa using h))
      · exact .inr (.inr ⟨a, List.mem_cons_self, h⟩)
    · rcases ih h with h | h | ⟨b, hb, h⟩
      · exact .inl h
      · exact .inr (.inl h)
      · exact .inr (.inr ⟨b, List.mem_cons_of_mem a hb, h⟩)

theorem quote_mem_of_mem_lowerChars {cs : List Char} (h : '\'' ∈ lowerChars cs) : '\'' ∈ cs := by
  rcases mem_lowerFrom h with h | h | ⟨a, ha, h⟩
  · exact absurd h (by decide)
  · exact absurd h (by decide)
  · rcases eq_of_mem_lowerChar h (by decide) with ⟨ascii, lowered⟩ | ⟨-, h⟩ | ⟨-, h⟩
    · have unchanged : a = '\'' := by
        refine forall_ascii (p := fun a => '\'' = a.toLower → a = '\'') ?_ a ascii lowered
        decide
      rwa [unchanged] at ha
    · exact absurd h (by decide)
    · exact absurd h (by decide)

section Twice

def CaseRun.meets (r q : CaseRun) : Bool :=
  Nat.ble q.first (r.target + (r.last - r.first)) && Nat.ble r.target q.last

def CaseRun.alternates (r q : CaseRun) : Bool :=
  q.step == 2 && (r.step == 2 || r.first == r.last) && r.target % 2 != q.first % 2

/-- The dotted capital I by itself, whose lower case no run gives. -/
def dottedRun : CaseRun :=
  ⟨0x130, 0x130, 1, 0x69⟩

theorem lowerRuns_alternates : ∀ r ∈ lowerRuns, ∀ q ∈ dottedRun :: lowerRuns,
    r.meets q = true → r.alternates q = true := by
  have checked : (lowerRuns.all fun r =>
      ((dottedRun :: lowerRuns).filter r.meets).all r.alternates) = true := by
    decide +kernel
  intro r hr q hq meets
  have others := List.all_eq_true.1 checked r hr
  exact List.all_eq_true.1 others q (List.mem_filter.2 ⟨hq, meets⟩)

theorem image_not_member {r q : CaseRun} (apart : r.meets q = true → r.alternates q = true)
    {n m : Nat} (first : r.first ≤ n) (last : n ≤ r.last) (member : (n - r.first) % r.step = 0)
    (image : m = r.target + (n - r.first)) (first' : q.first ≤ m) (last' : m ≤ q.last) :
    (m - q.first) % q.step ≠ 0 := by
  have meets : r.meets q = true := by
    rw [CaseRun.meets, Bool.and_eq_true, Nat.ble_eq, Nat.ble_eq]
    omega
  have between := apart meets
  simp only [CaseRun.alternates, Bool.and_eq_true, Bool.or_eq_true, beq_iff_eq, bne_iff_ne]
    at between
  obtain ⟨⟨two, single⟩, parity⟩ := between
  rw [two]
  rcases single with two' | single
  · rw [two'] at member
    omega
  · omega

theorem caseImage_caseImage (n : Nat) :
    caseImage lowerRuns (caseImage lowerRuns n) = caseImage lowerRuns n := by
  rcases caseImage_cases lowerRuns n with same | ⟨r, hr, first, last, member, image⟩
  · rw [same, same]
  rcases caseImage_cases lowerRuns (caseImage lowerRuns n) with
    same | ⟨q, hq, first', last', member', -⟩
  · exact same
  · have apart := lowerRuns_alternates r hr q (List.mem_cons_of_mem dottedRun hq)
    exact absurd member' (image_not_member apart first last member image first' last')

theorem caseImage_ne_dotted {n : Nat} (h : n ≠ 0x130) : caseImage lowerRuns n ≠ 0x130 := by
  intro dotted
  rcases caseImage_cases lowerRuns n with same | ⟨r, hr, first, last, member, image⟩
  · exact h (same.symm.trans dotted)
  · have moved : dottedRun.first = r.target + (n - r.first) := dotted.symm.trans image
    have apart := lowerRuns_alternates r hr dottedRun List.mem_cons_self
    exact image_not_member apart first last member moved (Nat.le_refl _) (Nat.le_refl _) rfl

def IsLowered (c : Char) : Prop :=
  c ≠ 'Σ' ∧ lowerChar c = [c]

instance (c : Char) : Decidable (IsLowered c) :=
  inferInstanceAs (Decidable (_ ∧ _))

theorem isLowered_of_mem_lowerChar {a c : Char} (h : c ∈ lowerChar a) : IsLowered c := by
  unfold lowerChar at h
  split at h
  next ascii =>
    obtain rfl : c = a.toLower := by simpa using h
    refine forall_ascii (p := fun a => IsLowered a.toLower) ?_ a ascii
    decide +kernel
  next wide =>
  split at h
  next dotted =>
    simp only [List.mem_cons, List.not_mem_nil, or_false] at h
    rcases h with rfl | rfl <;> decide +kernel
  next other =>
    have code : c.toNat = caseImage lowerRuns a.toNat := by
      obtain rfl : c = Char.ofNat (caseImage lowerRuns a.toNat) := by simpa using h
      exact toNat_ofNat_of_valid (isValidChar_caseImage a)
    have fixed : caseImage lowerRuns c.toNat = c.toNat := by
      rw [code]
      exact caseImage_caseImage a.toNat
    by_cases ascii : c.toNat < 128
    · have kelvin := (caseImage_lt_iff wide).1 (code ▸ ascii)
      obtain rfl : c = 'k' := by
        refine Char.toNat_inj.1 (code.trans ?_)
        rw [kelvin]
        decide +kernel
      decide +kernel
    · have plain : c.toNat ≠ 0x130 := code ▸ caseImage_ne_dotted other
      refine ⟨?_, by rw [lowerChar, if_neg ascii, if_neg plain, fixed, Char.ofNat_toNat]⟩
      rintro rfl
      exact absurd fixed (by decide +kernel)

theorem lowerFrom_of_isLowered (inWord : Bool) {cs : List Char} (h : ∀ c ∈ cs, IsLowered c) :
    lowerFrom inWord cs = cs := by
  have noSigma : 'Σ' ∉ cs := fun mem => (h 'Σ' mem).1 rfl
  have same : cs.flatMap lowerChar = cs.flatMap fun c => [c] :=
    List.flatMap_congr fun c mem => (h c mem).2
  rw [lowerFrom_of_not_mem inWord noSigma, same, List.flatMap_singleton']

theorem isLowered_of_mem_lowerFrom {inWord : Bool} {cs : List Char} {c : Char}
    (h : c ∈ lowerFrom inWord cs) : IsLowered c := by
  rcases mem_lowerFrom h with rfl | rfl | ⟨a, -, mem⟩
  · decide +kernel
  · decide +kernel
  · exact isLowered_of_mem_lowerChar mem

theorem lower_lower (s : String) : lower (lower s) = lower s := by
  have lowered : ∀ c ∈ lowerChars s.toList, IsLowered c := fun _ => isLowered_of_mem_lowerFrom
  rw [← String.toList_inj, toList_lower (lower s), toList_lower, lowerChars,
    lowerFrom_of_isLowered false lowered]

theorem lowerChar_ne_nil (c : Char) : lowerChar c ≠ [] := by
  unfold lowerChar
  split
  · exact List.cons_ne_nil _ _
  · split <;> exact List.cons_ne_nil _ _

theorem lower_eq_empty_iff (s : String) : lower s = "" ↔ s = "" := by
  rw [← String.toList_inj, ← String.toList_inj, toList_lower, lowerChars]
  cases s.toList with
  | nil => exact Iff.rfl
  | cons c cs =>
    have image : (if c = 'Σ' then [if false && !startsCased cs then 'ς' else 'σ']
        else lowerChar c) ≠ [] := by
      split
      · exact List.cons_ne_nil _ _
      · exact lowerChar_ne_nil c
    refine iff_of_false (fun empty => image ?_) (List.cons_ne_nil c cs)
    exact (List.append_eq_nil_iff.1 empty).1

example : lower (lower "İΑΣ") = "i\u0307ας" := by decide +kernel

end Twice

section Joined

theorem startsCased_append_underscore (cs rest : List Char) :
    startsCased (cs ++ '_' :: rest) = startsCased cs := by
  induction cs with
  | nil => rfl
  | cons c cs ih =>
    unfold startsCased at ih ⊢
    rw [List.cons_append, List.dropWhile_cons, List.dropWhile_cons]
    cases isCaseIgnorable c with
    | true => exact ih
    | false => rfl

theorem lowerFrom_append_underscore (inWord : Bool) (cs rest : List Char) :
    lowerFrom inWord (cs ++ '_' :: rest) =
      lowerFrom inWord cs ++ '_' :: lowerFrom false rest := by
  induction cs generalizing inWord with
  | nil => rfl
  | cons c cs ih =>
    simp only [List.cons_append, lowerFrom, startsCased_append_underscore, ih, List.append_assoc]

theorem lower_append_underscore_append (a b : String) :
    lower (a ++ "_" ++ b) = lower a ++ "_" ++ lower b := by
  rw [← String.toList_inj]
  simp only [toList_lower, String.toList_append, List.append_assoc, lowerChars]
  exact lowerFrom_append_underscore false a.toList b.toList

end Joined

end TableSchema.Text
