import TableSchema.Proofs.Text.Identifier
import TableSchema.Text.Occurrence

/-!
Phrases counted in a text that is put together of pieces. The counts of two texts add up unless an
occurrence lies across their border, and a separator is a piece that lets none lie across either of
its own, whatever it stands between.
-/

namespace TableSchema.Text

variable {phrase a b cs p : List Char} {c : Char}

/-- An occurrence of the phrase begins in the first text and ends in the second. -/
def Straddles (phrase a b : List Char) : Prop :=
  ∃ head tail, head ≠ [] ∧ tail ≠ [] ∧ phrase = head ++ tail ∧ head <:+ a ∧ tail <+: b

theorem isPrefixOf_append (h : ¬ Straddles phrase (c :: a) b) :
    phrase.isPrefixOf (c :: a ++ b) = phrase.isPrefixOf (c :: a) := by
  rw [Bool.eq_iff_iff, List.isPrefixOf_iff_prefix, List.isPrefixOf_iff_prefix]
  refine ⟨fun inBoth => ?_, fun inFirst => inFirst.trans (List.prefix_append _ b)⟩
  rcases List.prefix_or_prefix_of_prefix inBoth (List.prefix_append (c :: a) b) with
    inFirst | ⟨tail, whole⟩
  · exact inFirst
  · rw [← whole] at inBoth ⊢
    by_cases nothing : tail = []
    · simp [nothing]
    · have rest := (List.prefix_append_right_inj (c :: a)).1 inBoth
      exact absurd ⟨c :: a, tail, List.cons_ne_nil c a, nothing, whole.symm, List.suffix_refl _,
        rest⟩ h

theorem occurrencesFrom_append (skip : Nat) (h : ¬ Straddles phrase a b)
    (inside : skip ≤ a.length) :
    occurrencesFrom phrase skip (a ++ b) =
      occurrencesFrom phrase skip a + occurrences phrase b := by
  induction a generalizing skip with
  | nil =>
    obtain rfl : skip = 0 := by simpa using inside
    simp [occurrencesFrom, occurrences]
  | cons c a ih =>
    have later : ¬ Straddles phrase a b := by
      rintro ⟨head, tail, some, others, split, ending, start⟩
      exact h ⟨head, tail, some, others, split, ending.trans (List.suffix_cons c a), start⟩
    cases skip with
    | succ skip => exact ih skip later (by simpa using inside)
    | zero =>
      have same := isPrefixOf_append h
      rw [List.cons_append] at same ⊢
      rw [occurrencesFrom, occurrencesFrom, same]
      split
      next found =>
        -- an occurrence that begins in the first text ends in it, so the skip stays inside
        have short := (List.isPrefixOf_iff_prefix.1 found).length_le
        rw [List.length_cons] at short
        rw [ih (phrase.length - 1) later (by omega)]
        omega
      next => exact ih 0 later (Nat.zero_le _)

theorem occurrences_append (h : ¬ Straddles phrase a b) :
    occurrences phrase (a ++ b) = occurrences phrase a + occurrences phrase b :=
  occurrencesFrom_append 0 h (Nat.zero_le _)

theorem occurrencesFrom_eq_zero (hc : c ∈ phrase) (hn : c ∉ cs) (skip : Nat) :
    occurrencesFrom phrase skip cs = 0 := by
  induction cs generalizing skip with
  | nil => rw [occurrencesFrom]
  | cons x cs ih =>
    have rest := ih fun mem => hn (List.mem_cons_of_mem x mem)
    cases skip with
    | succ skip => exact rest skip
    | zero =>
      have absent : ¬ phrase.isPrefixOf (x :: cs) = true := fun found =>
        hn ((List.isPrefixOf_iff_prefix.1 found).subset hc)
      rw [occurrencesFrom, if_neg absent]
      exact rest 0

theorem occurrences_eq_zero (hc : c ∈ phrase) (hn : c ∉ cs) : occurrences phrase cs = 0 :=
  occurrencesFrom_eq_zero hc hn 0

theorem occurrences_append_of_not_mem (h : c ∉ a) (b : List Char) :
    occurrences (c :: phrase) (a ++ b) = occurrences (c :: phrase) b := by
  rw [occurrences_append, occurrences_eq_zero List.mem_cons_self h, Nat.zero_add]
  rintro ⟨head, tail, nonempty, -, split, ending, -⟩
  obtain ⟨first, rest, rfl⟩ := List.exists_cons_of_ne_nil nonempty
  obtain ⟨rfl, -⟩ := List.cons.inj split
  exact h (ending.subset List.mem_cons_self)

section Separator

def cuts (phrase : List Char) : List (List Char × List Char) :=
  (List.range phrase.length).tail.map fun n => (phrase.take n, phrase.drop n)

theorem mem_cuts {head tail : List Char} (some : head ≠ []) (others : tail ≠ []) :
    (head, tail) ∈ cuts (head ++ tail) := by
  have positive := List.length_pos_iff.2 some
  have bound := List.length_pos_iff.2 others
  have total : (head ++ tail).length = head.length + tail.length := List.length_append
  have listed : head.length ∈ (List.range (head ++ tail).length).tail := by
    rw [← List.drop_one, List.mem_drop_iff_getElem]
    refine ⟨head.length - 1, ?_, ?_⟩
    · rw [List.length_range]
      omega
    · rw [List.getElem_range]
      omega
  exact List.mem_map.2 ⟨head.length, listed, by simp⟩

/-- The piece ends in no beginning of the phrase, and neither begins with an end of the phrase nor
is the beginning of one. -/
def isSeparator (phrase p : List Char) : Bool :=
  (cuts phrase).all fun (head, tail) =>
    !head.isSuffixOf p && !tail.isPrefixOf p && !p.isPrefixOf tail

theorem apart_of_isSeparator {head tail : List Char}
    (h : isSeparator (head ++ tail) p = true) (some : head ≠ []) (others : tail ≠ []) :
    (¬ head <:+ p ∧ ¬ tail <+: p) ∧ ¬ p <+: tail := by
  have apart := List.all_eq_true.1 h _ (mem_cuts some others)
  simpa only [Bool.and_eq_true, Bool.not_eq_true', ← Bool.not_eq_true,
    List.isSuffixOf_iff_suffix, List.isPrefixOf_iff_prefix] using apart

theorem not_straddles_before (h : isSeparator phrase p = true) (a b : List Char) :
    ¬ Straddles phrase a (p ++ b) := by
  rintro ⟨head, tail, some, others, rfl, -, start⟩
  have apart := apart_of_isSeparator h some others
  rcases List.prefix_or_prefix_of_prefix start (List.prefix_append p b) with inside | around
  · exact apart.1.2 inside
  · exact apart.2 around

theorem not_straddles_behind (h : isSeparator phrase p = true) (b : List Char) :
    ¬ Straddles phrase p b := by
  rintro ⟨head, tail, some, others, rfl, ending, -⟩
  exact (apart_of_isSeparator h some others).1.1 ending

theorem occurrences_separator_append (h : isSeparator phrase p = true) (b : List Char) :
    occurrences phrase (p ++ b) = occurrences phrase p + occurrences phrase b :=
  occurrences_append (not_straddles_behind h b)

/-- What stands on the two sides of a separator is counted by itself. -/
theorem occurrences_separated (h : isSeparator phrase p = true) (a b : List Char) :
    occurrences phrase (a ++ (p ++ b)) =
      occurrences phrase a + (occurrences phrase p + occurrences phrase b) := by
  rw [occurrences_append (not_straddles_before h a b), occurrences_separator_append h]

end Separator

end TableSchema.Text
