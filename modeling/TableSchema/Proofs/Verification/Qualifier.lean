import TableSchema.Proofs.Text.Identifier

/-!
Qualifiers in a list of columns. What is taken off a list is exactly its qualifiers, identifiers that
are whole words and the points behind them. Taking one off joins what stands around it, but never
two words, so no qualifier is made by it.
-/

namespace TableSchema.Verification

open Text

/-- The second text is what is left of the first one at the places that are kept. -/
inductive Retains : (Nat → Prop) → List Char → List Char → Prop
  | nil (kept : Nat → Prop) : Retains kept [] []
  | keep {kept : Nat → Prop} (c : Char) {cs rest : List Char} (here : kept 0)
      (later : Retains (fun i => kept (i + 1)) cs rest) : Retains kept (c :: cs) (c :: rest)
  | drop {kept : Nat → Prop} (c : Char) {cs rest : List Char} (here : ¬ kept 0)
      (later : Retains (fun i => kept (i + 1)) cs rest) : Retains kept (c :: cs) rest

/-- The place lies in a qualifier: an identifier that is a whole word, with the point behind it. -/
def InQualifier (cs : List Char) (i : Nat) : Prop :=
  ∃ before word after, cs = before ++ (word ++ '.' :: after) ∧ isIdentifier word = true ∧
    before.getLast?.any isWordChar = false ∧
    before.length ≤ i ∧ i ≤ before.length + word.length

namespace Retains

variable {kept : Nat → Prop} {a b cs rest ra rb : List Char}

theorem append (ha : Retains kept a ra) (hb : Retains (fun i => kept (a.length + i)) b rb) :
    Retains kept (a ++ b) (ra ++ rb) := by
  induction ha with
  | nil kept => simpa using hb
  | keep c here _ ih =>
    refine .keep c here (ih ?_)
    simpa only [List.length_cons, Nat.add_right_comm] using hb
  | drop c here _ ih =>
    refine .drop c here (ih ?_)
    simpa only [List.length_cons, Nat.add_right_comm] using hb

theorem whole (h : ∀ i < cs.length, kept i) : Retains kept cs cs := by
  induction cs generalizing kept with
  | nil => exact .nil kept
  | cons c cs ih =>
    exact .keep c (h 0 (Nat.zero_lt_succ _)) (ih fun i hi => h (i + 1) (Nat.succ_lt_succ hi))

theorem none (h : ∀ i < cs.length, ¬ kept i) : Retains kept cs [] := by
  induction cs generalizing kept with
  | nil => exact .nil kept
  | cons c cs ih =>
    exact .drop c (h 0 (Nat.zero_lt_succ _)) (ih fun i hi => h (i + 1) (Nat.succ_lt_succ hi))

theorem eq_of_all (h : Retains kept cs rest) (all : ∀ i, kept i) : rest = cs := by
  induction h with
  | nil => rfl
  | keep c _ _ ih => rw [ih fun i => all (i + 1)]
  | drop c here _ _ => exact absurd (all 0) here

theorem subset (h : Retains kept cs rest) : rest ⊆ cs := by
  induction h with
  | nil => exact List.Subset.refl []
  | keep c _ _ ih => exact List.cons_subset_cons c ih
  | drop c _ _ ih => exact fun x hx => List.mem_cons_of_mem c (ih hx)

theorem congr {kept' : Nat → Prop} (h : Retains kept cs rest)
    (same : ∀ i, kept i ↔ kept' i) : Retains kept' cs rest := by
  rwa [← funext fun i => propext (same i)]

end Retains

section Word

variable {word rest : List Char} {c : Char} {i : Nat}

theorem isWordChar_point : isWordChar '.' = false := by decide

theorem word_inj {a b : List Char} {x y : Char} {as bs : List Char}
    (ha : ∀ c ∈ a, isWordChar c = true) (hb : ∀ c ∈ b, isWordChar c = true)
    (hx : isWordChar x = false) (hy : isWordChar y = false)
    (h : a ++ x :: as = b ++ y :: bs) : a = b ∧ x = y ∧ as = bs := by
  have taken (w : List Char) (hw : ∀ c ∈ w, isWordChar c = true) (z : Char) (zs : List Char)
      (hz : isWordChar z = false) : (w ++ z :: zs).takeWhile isWordChar = w := by
    rw [List.takeWhile_append_of_pos hw, List.takeWhile_cons_of_neg (by simp [hz]),
      List.append_nil]
  obtain rfl : a = b := by rw [← taken a ha x as hx, h, taken b hb y bs hy]
  exact ⟨rfl, List.cons.inj (List.append_cancel_left h)⟩

theorem isWordChar_of_mem_identifier (h : isIdentifier word = true) :
    ∀ c ∈ word, isWordChar c = true :=
  fun _ hc => isWordChar_of_identifierChar (identifierChar_of_mem h hc)

theorem any_getLast?_behind (word before : List Char) (hc : isWordChar c = false) :
    (word ++ c :: before).getLast?.any isWordChar = before.getLast?.any isWordChar := by
  rw [List.getLast?_append, List.getLast?_cons]
  cases before.getLast? <;> simp [hc]

theorem not_inQualifier_word (hw : ∀ c ∈ word, isWordChar c = true) : ¬ InQualifier word i := by
  rintro ⟨before, name, after, rfl, -⟩
  have point := hw '.' (by simp)
  rw [isWordChar_point] at point
  exact absurd point (by decide)

theorem inQualifier_word_append (hw : ∀ c ∈ word, isWordChar c = true) (hc : isWordChar c = false) :
    InQualifier (word ++ c :: rest) i ↔
      (i ≤ word.length ∧ c = '.' ∧ isIdentifier word = true) ∨
        ∃ j, i = word.length + 1 + j ∧ InQualifier rest j := by
  constructor
  · rintro ⟨before, name, after, split, identifier, free, first, last⟩
    have nameWord := isWordChar_of_mem_identifier identifier
    rcases List.append_eq_append_iff.1 split with ⟨gap, rfl, behind⟩ | ⟨gap, rfl, behind⟩
    · cases gap with
      | nil =>
        obtain ⟨x, xs, rfl⟩ := List.exists_cons_of_ne_nil (ne_nil_of_isIdentifier identifier)
        obtain ⟨rfl, -⟩ := List.cons.inj behind
        exact absurd (nameWord c List.mem_cons_self) (by simp [hc])
      | cons x gap =>
        obtain ⟨rfl, rfl⟩ := List.cons.inj behind
        rw [any_getLast?_behind word gap hc] at free
        simp only [List.length_append, List.length_cons] at first last
        exact .inr ⟨i - (word.length + 1), by omega, gap, name, after, rfl, identifier, free,
          by omega, by omega⟩
    · rcases before.eq_nil_or_concat with rfl | ⟨before, x, rfl⟩
      · obtain ⟨rfl, rfl, -⟩ := word_inj nameWord hw isWordChar_point hc behind
        exact .inl ⟨by simpa using last, rfl, identifier⟩
      · have inside : isWordChar x = true := hw x (by simp)
        simp [inside] at free
  · rintro (⟨bound, rfl, identifier⟩ | ⟨j, rfl, before, name, after, rfl, identifier, free, first,
      last⟩)
    · exact ⟨[], word, rest, rfl, identifier, rfl, Nat.zero_le i, by simpa using bound⟩
    · refine ⟨word ++ c :: before, name, after, by simp, identifier, ?_, ?_⟩
      · rwa [any_getLast?_behind word before hc]
      · simp only [List.length_append, List.length_cons]
        omega

theorem inQualifier_behind_word (hw : ∀ c ∈ word, isWordChar c = true) (hc : isWordChar c = false) :
    InQualifier (word ++ c :: rest) ((word ++ [c]).length + i) ↔ InQualifier rest i := by
  rw [inQualifier_word_append hw hc, List.length_append, List.length_singleton]
  constructor
  · rintro (⟨bound, -⟩ | ⟨j, place, inside⟩)
    · omega
    · obtain rfl : i = j := by omega
      exact inside
  · exact fun inside => .inr ⟨i, rfl, inside⟩

theorem inQualifier_at_word (hw : ∀ c ∈ word, isWordChar c = true) (hc : isWordChar c = false)
    (hi : i < (word ++ [c]).length) :
    InQualifier (word ++ c :: rest) i ↔ c = '.' ∧ isIdentifier word = true := by
  rw [List.length_append, List.length_singleton] at hi
  rw [inQualifier_word_append hw hc]
  constructor
  · rintro (⟨-, qualifier⟩ | ⟨j, place, -⟩)
    · exact qualifier
    · omega
  · exact fun qualifier => .inl ⟨by omega, qualifier⟩

end Word

section List

variable {word cs : List Char}

theorem forall_wordChar_concat {c : Char} (hw : ∀ c ∈ word, isWordChar c = true)
    (hc : isWordChar c = true) : ∀ x ∈ word ++ [c], isWordChar x = true :=
  List.forall_mem_append.2 ⟨hw, List.forall_mem_singleton.2 hc⟩

theorem retains_dropQualifiersFrom (hw : ∀ c ∈ word, isWordChar c = true) :
    Retains (fun i => ¬ InQualifier (word ++ cs) i) (word ++ cs) (dropQualifiersFrom word cs) := by
  fun_induction dropQualifiersFrom word cs with
  | case1 word =>
    rw [List.append_nil]
    exact .whole fun i _ => not_inQualifier_word hw
  | case2 word c cs letter ih =>
    simpa only [List.append_assoc, List.singleton_append] using
      ih (forall_wordChar_concat hw letter)
  | case3 word c cs mark qualifier ih =>
    have between : isWordChar c = false := by simpa using mark
    obtain ⟨rfl, identifier⟩ : c = '.' ∧ isIdentifier word = true := by simpa using qualifier
    have gone : Retains (fun i => ¬ InQualifier (word ++ '.' :: cs) i) (word ++ ['.']) [] :=
      .none fun i hi => not_not_intro ((inQualifier_at_word hw between hi).2 ⟨rfl, identifier⟩)
    have others := (ih (by simp)).congr fun i =>
      not_congr (inQualifier_behind_word (i := i) hw between).symm
    simpa using gone.append others
  | case4 word c cs mark other ih =>
    have between : isWordChar c = false := by simpa using mark
    have plain : ¬ (c = '.' ∧ isIdentifier word = true) := by simpa using other
    have left : Retains (fun i => ¬ InQualifier (word ++ c :: cs) i) (word ++ [c]) (word ++ [c]) :=
      .whole fun i hi => mt (inQualifier_at_word hw between hi).1 plain
    have others := (ih (by simp)).congr fun i =>
      not_congr (inQualifier_behind_word (i := i) hw between).symm
    simpa using left.append others

theorem not_inQualifier_dropQualifiersFrom (hw : ∀ c ∈ word, isWordChar c = true) (i : Nat) :
    ¬ InQualifier (dropQualifiersFrom word cs) i := by
  fun_induction dropQualifiersFrom word cs generalizing i with
  | case1 word => exact not_inQualifier_word hw
  | case2 word c cs letter ih => exact ih (forall_wordChar_concat hw letter) i
  | case3 word c cs mark qualifier ih => exact ih (by simp) i
  | case4 word c cs mark other ih =>
    have between : isWordChar c = false := by simpa using mark
    rw [inQualifier_word_append hw between]
    rintro (⟨-, rfl, identifier⟩ | ⟨j, -, inside⟩)
    · exact other (by simp [identifier])
    · exact ih (by simp) j inside

theorem retains_dropQualifiers (cs : List Char) :
    Retains (fun i => ¬ InQualifier cs i) cs (dropQualifiers cs) := by
  have nothing : ∀ c ∈ ([] : List Char), isWordChar c = true := by simp
  exact retains_dropQualifiersFrom nothing

theorem not_inQualifier_dropQualifiers (cs : List Char) (i : Nat) :
    ¬ InQualifier (dropQualifiers cs) i :=
  not_inQualifier_dropQualifiersFrom (by simp) i

theorem dropQualifiers_eq_self (h : ∀ i, ¬ InQualifier cs i) : dropQualifiers cs = cs :=
  (retains_dropQualifiers cs).eq_of_all h

end List

end TableSchema.Verification
