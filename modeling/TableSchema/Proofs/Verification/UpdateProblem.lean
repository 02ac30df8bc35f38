import TableSchema.Proofs.Text.KeywordWord
import TableSchema.Verification.UpdateProblem

/-!
The signs of a degenerate `UPDATE`, sought among the words of a statement.
-/

namespace TableSchema.Verification

open Text

def isWhere (cs : List Char) : Bool :=
  (dropKeyword? "WHERE".toList cs).any atWordEnd

def isNullParameter (cs : List Char) : Bool :=
  (dropChars? ['='] (cs.dropWhile isBlank)).any fun cs =>
    (dropChars? ['$'] (cs.dropWhile isBlank)).any fun cs =>
      (dropKeyword? "NULL".toList cs).any atWordEnd

def isNullComparison (cs : List Char) : Bool :=
  (dropKeyword? "NULL".toList cs).any isNullParameter

theorem isEmptySet_eq_opensWith : isEmptySet = opensWith "SET" isWhere := by
  funext cs
  simp only [isEmptySet, opensWith, Option.bind_eq_bind, Option.any_bind, Function.comp_def]
  rfl

theorem isNullKey_eq_opensWith : isNullKey = opensWith "WHERE" isNullComparison := by
  funext cs
  simp only [isNullKey, opensWith, Option.bind_eq_bind, Option.any_bind, Function.comp_def]
  rfl

theorem isWhere_cons_of_not_wordChar (c : Char) (cs : List Char) (hc : isWordChar c = false) :
    isWhere (c :: cs) = false := by
  rw [isWhere, dropKeyword?_cons_of_not_wordChar (by decide) (by decide) hc]
  rfl

theorem isNullComparison_cons_of_not_wordChar (c : Char) (cs : List Char)
    (hc : isWordChar c = false) : isNullComparison (c :: cs) = false := by
  rw [isNullComparison, dropKeyword?_cons_of_not_wordChar (by decide) (by decide) hc]
  rfl

theorem isNullParameter_of_not_equals {c : Char} (blank : isBlank c = false) (hc : c ≠ '=')
    (cs : List Char) : isNullParameter (c :: cs) = false := by
  have other : dropChars? ['='] (c :: cs) = none := if_neg (by simp [Ne.symm hc])
  rw [isNullParameter, List.dropWhile_cons_of_neg (by simp [blank]), other]
  rfl

section Words

variable {t : Token} {ts : List Token} {last : String}

theorem isWhere_spell (ht : t.IsProper) :
    isWhere (spell (t :: ts) last) = isKeyword "WHERE" t.word :=
  any_atWordEnd_spell (by decide) ht ts last

theorem isNullComparison_spell (ht : t.IsProper) :
    isNullComparison (spell (t :: ts) last) =
      (isKeyword "NULL" t.word && isNullParameter (t.gap.toList ++ spell ts last)) := by
  have ended := atWordEnd_gap ht.gap ht.between (spell ts last)
  rw [spell, isNullComparison]
  refine any_dropKeyword?_word (by decide) ht.chars ended fun c cs hc => ?_
  refine isNullParameter_of_not_equals (isBlank_of_identifierChar hc) ?_ cs
  rintro rfl
  exact absurd hc (by decide)

theorem hasEmptySet_spell (ht : ∀ u ∈ ts, u.IsProper) (hl : IsIdentifier last) :
    hasEmptySet (spell ts last) = followsKeyword "SET" isWhere ts last := by
  rw [hasEmptySet, isEmptySet_eq_opensWith]
  exact wordStartSatisfies_opensWith (by decide) (by decide) isWhere_cons_of_not_wordChar ht hl

theorem hasNullKey_spell (ht : ∀ u ∈ ts, u.IsProper) (hl : IsIdentifier last) :
    hasNullKey (spell ts last) = followsKeyword "WHERE" isNullComparison ts last := by
  rw [hasNullKey, isNullKey_eq_opensWith]
  exact wordStartSatisfies_opensWith (by decide) (by decide)
    isNullComparison_cons_of_not_wordChar ht hl

end Words

end TableSchema.Verification
