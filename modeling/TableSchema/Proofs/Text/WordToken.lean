import TableSchema.Proofs.Text.Identifier
import TableSchema.Text.Keyword

/-!
Texts of words with gaps between them. A pattern that opens with a keyword holds at the beginning of
a word or nowhere, so such a text is searched word by word.
-/

namespace TableSchema.Text

structure Token where
  word : String
  gap : String

def isGap (gap : String) : Bool :=
  !gap.toList.isEmpty && gap.toList.all fun c => !isWordChar c

structure Token.IsProper (t : Token) : Prop where
  word : t.word.toList ≠ []
  chars : ∀ c ∈ t.word.toList, isIdentifierChar c = true
  gap : t.gap.toList ≠ []
  between : ∀ c ∈ t.gap.toList, isWordChar c = false

theorem isProper_of_isIdentifier {word gap : String} (hw : IsIdentifier word)
    (hg : isGap gap = true) : (⟨word, gap⟩ : Token).IsProper := by
  rw [isGap, Bool.and_eq_true, List.all_eq_true] at hg
  exact {
    word := ne_nil_of_isIdentifier hw
    chars := fun _ hc => identifierChar_of_mem hw hc
    gap := by simpa using hg.1
    between := by simpa using hg.2 }

def spell : List Token → String → List Char
  | [], last => last.toList
  | t :: ts, last => t.word.toList ++ (t.gap.toList ++ spell ts last)

def holdsAtWord (pattern : List Char → Bool) : List Token → String → Bool
  | [], last => pattern last.toList
  | t :: ts, last => pattern (spell (t :: ts) last) || holdsAtWord pattern ts last

section Scan

variable {pattern : List Char → Bool} {word gap : List Char}

theorem wordStartSatisfies_inWord (hw : ∀ c ∈ word, isWordChar c = true) (rest : List Char) :
    wordStartSatisfies pattern true (word ++ rest) = wordStartSatisfies pattern true rest := by
  induction word with
  | nil => rfl
  | cons c word ih =>
    have first : isWordChar c = true := hw c List.mem_cons_self
    have others := ih fun x hx => hw x (List.mem_cons_of_mem c hx)
    rw [List.cons_append, wordStartSatisfies, first, others]
    rfl

theorem wordStartSatisfies_word (nonempty : word ≠ []) (hw : ∀ c ∈ word, isWordChar c = true)
    (rest : List Char) :
    wordStartSatisfies pattern false (word ++ rest) =
      (pattern (word ++ rest) || wordStartSatisfies pattern true rest) := by
  cases word with
  | nil => exact absurd rfl nonempty
  | cons c word =>
    have first : isWordChar c = true := hw c List.mem_cons_self
    have others : ∀ x ∈ word, isWordChar x = true := fun x hx =>
      hw x (List.mem_cons_of_mem c hx)
    rw [List.cons_append, wordStartSatisfies, first, wordStartSatisfies_inWord others]
    rfl

theorem wordStartSatisfies_between
    (failing : ∀ c cs, isWordChar c = false → pattern (c :: cs) = false)
    (hg : ∀ c ∈ gap, isWordChar c = false) (rest : List Char) :
    wordStartSatisfies pattern false (gap ++ rest) = wordStartSatisfies pattern false rest := by
  induction gap with
  | nil => rfl
  | cons c gap ih =>
    have first : isWordChar c = false := hg c List.mem_cons_self
    have others := ih fun x hx => hg x (List.mem_cons_of_mem c hx)
    rw [List.cons_append, wordStartSatisfies, first, others, failing c _ first]
    rfl

theorem wordStartSatisfies_gap
    (failing : ∀ c cs, isWordChar c = false → pattern (c :: cs) = false) (nonempty : gap ≠ [])
    (hg : ∀ c ∈ gap, isWordChar c = false) (rest : List Char) :
    wordStartSatisfies pattern true (gap ++ rest) = wordStartSatisfies pattern false rest := by
  cases gap with
  | nil => exact absurd rfl nonempty
  | cons c gap =>
    have first : isWordChar c = false := hg c List.mem_cons_self
    have others := wordStartSatisfies_between failing
      (fun x hx => hg x (List.mem_cons_of_mem c hx)) rest
    rw [List.cons_append, wordStartSatisfies, first, others]
    rfl

theorem wordStartSatisfies_spell
    (failing : ∀ c cs, isWordChar c = false → pattern (c :: cs) = false) {ts : List Token}
    (ht : ∀ t ∈ ts, t.IsProper) {last : String} (hl : IsIdentifier last) :
    wordStartSatisfies pattern false (spell ts last) = holdsAtWord pattern ts last := by
  induction ts with
  | nil =>
    have chars : ∀ c ∈ last.toList, isWordChar c = true := fun c hc =>
      isWordChar_of_identifierChar (identifierChar_of_mem hl hc)
    have whole : wordStartSatisfies pattern false (last.toList ++ []) = _ :=
      wordStartSatisfies_word (ne_nil_of_isIdentifier hl) chars []
    rw [List.append_nil] at whole
    rw [spell, holdsAtWord, whole, wordStartSatisfies, Bool.or_false]
  | cons t ts ih =>
    have proper := ht t List.mem_cons_self
    have chars : ∀ c ∈ t.word.toList, isWordChar c = true := fun c hc =>
      isWordChar_of_identifierChar (proper.chars c hc)
    have others := ih fun u hu => ht u (List.mem_cons_of_mem t hu)
    rw [spell, holdsAtWord, wordStartSatisfies_word proper.word chars,
      wordStartSatisfies_gap failing proper.gap proper.between, others]
    rfl

end Scan

end TableSchema.Text
