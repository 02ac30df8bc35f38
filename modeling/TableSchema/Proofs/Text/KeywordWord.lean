import TableSchema.Proofs.Text.WordToken

/-!
Keywords against the words of a text. A keyword followed by a blank, or by no word character, can
only be a whole word.
-/

namespace TableSchema.Text

theorem isFormOf_eq_decide (letter : Char) {c : Char} (hc : isIdentifierChar c = true) :
    isFormOf letter c = decide (c.toUpper = letter) := by
  have ascii := toNat_lt_of_identifierChar hc
  have other (x : Char) (hx : 128 ≤ x.toNat) : c ≠ x := by
    rintro rfl
    omega
  simp [isFormOf, other 'İ' (by decide), other 'ı' (by decide), other '\u212A' (by decide),
    other 'ſ' (by decide)]

theorem toUpper_of_large {c : Char} (h : 128 ≤ c.toNat) : c.toUpper = c := by
  unfold Char.toUpper
  split
  next lower =>
    have bound : c.toNat ≤ 122 := UInt32.le_iff_toNat_le.1 lower.2
    omega
  next => rfl

theorem isWordChar_of_isUpper_toUpper {c : Char} (h : c.toUpper.isUpper = true) :
    isWordChar c = true := by
  rcases Nat.lt_or_ge c.toNat 128 with ascii | large
  · refine forall_ascii (p := fun c => c.toUpper.isUpper = true → isWordChar c = true) ?_ c ascii h
    decide
  · rw [toUpper_of_large large] at h
    have range : 65 ≤ c.val ∧ c.val ≤ 90 := of_decide_eq_true h
    have bound : c.toNat ≤ 90 := UInt32.le_iff_toNat_le.1 range.2
    omega

theorem isWordChar_of_isFormOf {letter c : Char} (hl : letter.isUpper = true)
    (h : isFormOf letter c = true) : isWordChar c = true := by
  simp only [isFormOf, Bool.or_eq_true, Bool.and_eq_true, decide_eq_true_eq] at h
  rcases h with ((upper | ⟨-, rfl | rfl⟩) | ⟨-, rfl⟩) | ⟨-, rfl⟩
  · exact isWordChar_of_isUpper_toUpper (by rwa [upper])
  all_goals decide +kernel

theorem isBlank_of_identifierChar {c : Char} (h : isIdentifierChar c = true) :
    isBlank c = false := by
  refine forall_ascii (p := fun c => isIdentifierChar c = true → isBlank c = false) ?_ c
    (toNat_lt_of_identifierChar h) h
  decide +kernel

section Keyword

variable {keyword word rest : List Char}

theorem dropKeyword?_cons_of_not_wordChar (hk : keyword.all Char.isUpper = true)
    (nonempty : keyword ≠ []) {c : Char} (hc : isWordChar c = false) (cs : List Char) :
    dropKeyword? keyword (c :: cs) = none := by
  cases keyword with
  | nil => exact absurd rfl nonempty
  | cons letter keyword =>
    have noForm : isFormOf letter c = false := by
      cases form : isFormOf letter c with
      | false => rfl
      | true =>
        have upper := List.all_eq_true.1 hk letter List.mem_cons_self
        have wordChar := isWordChar_of_isFormOf upper form
        exact absurd wordChar (by simp [hc])
    rw [dropKeyword?, noForm]
    rfl

theorem dropKeyword?_word (hk : keyword.all Char.isUpper = true)
    (hw : ∀ c ∈ word, isIdentifierChar c = true) (hr : atWordEnd rest = true) :
    dropKeyword? keyword (word ++ rest) =
      if (word.take keyword.length).map Char.toUpper = keyword then
        some (word.drop keyword.length ++ rest)
      else none := by
  induction keyword generalizing word with
  | nil => simp [dropKeyword?]
  | cons letter keyword ih =>
    cases word with
    | nil =>
      have none : dropKeyword? (letter :: keyword) rest = none := by
        cases rest with
        | nil => rfl
        | cons c cs =>
          have between : isWordChar c = false := by simpa [atWordEnd] using hr
          exact dropKeyword?_cons_of_not_wordChar hk (List.cons_ne_nil _ _) between cs
      simpa using none
    | cons c word =>
      have later : keyword.all Char.isUpper = true := by
        rw [List.all_cons, Bool.and_eq_true] at hk
        exact hk.2
      have others := ih later fun x hx => hw x (List.mem_cons_of_mem c hx)
      have form := isFormOf_eq_decide letter (hw c List.mem_cons_self)
      rw [List.cons_append, dropKeyword?, form]
      by_cases same : c.toUpper = letter
      · simp [same, others]
      · simp [same]

theorem take_eq_iff (keyword word : List Char) :
    ((word.take keyword.length).map Char.toUpper = keyword ∧ word.drop keyword.length = []) ↔
      word.map Char.toUpper = keyword := by
  constructor
  · rintro ⟨taken, dropped⟩
    have whole : word.take keyword.length = word :=
      List.take_of_length_le (List.drop_eq_nil_iff.1 dropped)
    rwa [whole] at taken
  · rintro rfl
    simp

theorem any_dropKeyword?_word (hk : keyword.all Char.isUpper = true)
    (hw : ∀ c ∈ word, isIdentifierChar c = true) (hr : atWordEnd rest = true)
    {next : List Char → Bool} (stop : ∀ c cs, isIdentifierChar c = true → next (c :: cs) = false) :
    (dropKeyword? keyword (word ++ rest)).any next =
      (decide (word.map Char.toUpper = keyword) && next rest) := by
  have whole := take_eq_iff keyword word
  rw [dropKeyword?_word hk hw hr]
  by_cases taken : (word.take keyword.length).map Char.toUpper = keyword
  · rw [if_pos taken, Option.any_some]
    cases left : word.drop keyword.length with
    | nil =>
      have same := whole.1 ⟨taken, left⟩
      rw [List.nil_append, decide_eq_true same, Bool.true_and]
    | cons c cs =>
      have mem : c ∈ word := List.mem_of_mem_drop (left ▸ List.mem_cons_self)
      have differ : word.map Char.toUpper ≠ keyword := by
        intro same
        have empty := (whole.2 same).2
        rw [left] at empty
        exact absurd empty (List.cons_ne_nil c cs)
      rw [List.cons_append, stop c _ (hw c mem), decide_eq_false differ, Bool.false_and]
  · have differ : word.map Char.toUpper ≠ keyword := fun same => taken (whole.2 same).1
    rw [if_neg taken, Option.any_none, decide_eq_false differ, Bool.false_and]

end Keyword

def isKeyword (keyword word : String) : Bool :=
  decide (word.toList.map Char.toUpper = keyword.toList)

theorem isKeyword_of_underscore {keyword word : String} (hk : '_' ∉ keyword.toList)
    (hw : '_' ∈ word.toList) : isKeyword keyword word = false := by
  refine decide_eq_false fun same => hk ?_
  rw [← same]
  exact List.mem_map.2 ⟨'_', hw, rfl⟩

/-- The text begins with the keyword and with blanks, and the rest satisfies `next`. -/
def opensWith (keyword : String) (next : List Char → Bool) (cs : List Char) : Bool :=
  (dropKeyword? keyword.toList cs).any fun cs => (dropBlanks? cs).any next

section Phrase

variable {keyword : String} {next : List Char → Bool} {word gap rest : List Char}

theorem dropBlanks?_of_identifierChar {c : Char} (hc : isIdentifierChar c = true)
    (cs : List Char) : dropBlanks? (c :: cs) = none := by
  simp [dropBlanks?, isBlank_of_identifierChar hc]

theorem next_dropWhile_gap (failing : ∀ c cs, isWordChar c = false → next (c :: cs) = false)
    (hg : ∀ c ∈ gap, isWordChar c = false) (hr : rest.head?.any isBlank = false) :
    next ((gap ++ rest).dropWhile isBlank) = (gap.all isBlank && next rest) := by
  induction gap with
  | nil =>
    cases rest with
    | nil => simp
    | cons c rest =>
      have plain : isBlank c = false := by simpa using hr
      simp [plain]
  | cons c gap ih =>
    have others := ih fun x hx => hg x (List.mem_cons_of_mem c hx)
    cases blank : isBlank c with
    | true => simpa [blank] using others
    | false =>
      have stop := failing c (gap ++ rest) (hg c List.mem_cons_self)
      simp [blank, stop]

theorem any_dropBlanks?_gap (failing : ∀ c cs, isWordChar c = false → next (c :: cs) = false)
    (nonempty : gap ≠ []) (hg : ∀ c ∈ gap, isWordChar c = false)
    (hr : rest.head?.any isBlank = false) :
    (dropBlanks? (gap ++ rest)).any next = (gap.all isBlank && next rest) := by
  have passed := next_dropWhile_gap failing hg hr
  cases gap with
  | nil => exact absurd rfl nonempty
  | cons c gap =>
    cases blank : isBlank c with
    | true =>
      rw [← passed, dropBlanks?, List.cons_append, List.head?_cons, Option.any_some, blank]
      rfl
    | false => simp [dropBlanks?, blank]

theorem atWordEnd_gap (nonempty : gap ≠ []) (hg : ∀ c ∈ gap, isWordChar c = false)
    (rest : List Char) : atWordEnd (gap ++ rest) = true := by
  cases gap with
  | nil => exact absurd rfl nonempty
  | cons c gap => simp [atWordEnd, hg c List.mem_cons_self]

theorem opensWith_cons_of_not_wordChar (hk : keyword.toList.all Char.isUpper = true)
    (nonempty : keyword.toList ≠ []) (c : Char) (cs : List Char) (hc : isWordChar c = false) :
    opensWith keyword next (c :: cs) = false := by
  rw [opensWith, dropKeyword?_cons_of_not_wordChar hk nonempty hc cs]
  rfl

theorem opensWith_word (hk : keyword.toList.all Char.isUpper = true)
    (hw : ∀ c ∈ word, isIdentifierChar c = true) (hr : atWordEnd rest = true) :
    opensWith keyword next (word ++ rest) =
      (decide (word.map Char.toUpper = keyword.toList) && (dropBlanks? rest).any next) := by
  refine any_dropKeyword?_word hk hw hr fun c cs hc => ?_
  rw [dropBlanks?_of_identifierChar hc]
  rfl

theorem any_atWordEnd_spell (hk : keyword.toList.all Char.isUpper = true) {t : Token}
    (ht : t.IsProper) (ts : List Token) (last : String) :
    (dropKeyword? keyword.toList (spell (t :: ts) last)).any atWordEnd =
      isKeyword keyword t.word := by
  have stop (c : Char) (cs : List Char) (hc : isIdentifierChar c = true) :
      atWordEnd (c :: cs) = false := by
    simp [atWordEnd, isWordChar_of_identifierChar hc]
  have ended := atWordEnd_gap ht.gap ht.between (spell ts last)
  rw [spell, any_dropKeyword?_word hk ht.chars ended stop, ended, Bool.and_true]
  rfl

theorem exists_spell_eq_cons {ts : List Token} (ht : ∀ t ∈ ts, t.IsProper) {last : String}
    (hl : IsIdentifier last) : ∃ c cs, spell ts last = c :: cs ∧ isIdentifierChar c = true := by
  cases ts with
  | nil =>
    obtain ⟨c, cs, chars⟩ := List.exists_cons_of_ne_nil (ne_nil_of_isIdentifier hl)
    have mem : c ∈ last.toList := chars ▸ List.mem_cons_self
    exact ⟨c, cs, chars, identifierChar_of_mem hl mem⟩
  | cons t ts =>
    have proper := ht t List.mem_cons_self
    obtain ⟨c, cs, chars⟩ := List.exists_cons_of_ne_nil proper.word
    have mem : c ∈ t.word.toList := chars ▸ List.mem_cons_self
    refine ⟨c, cs ++ (t.gap.toList ++ spell ts last), ?_, proper.chars c mem⟩
    rw [spell, chars, List.cons_append]

theorem opensWith_spell (hk : keyword.toList.all Char.isUpper = true)
    (failing : ∀ c cs, isWordChar c = false → next (c :: cs) = false) {t : Token}
    {ts : List Token} (ht : ∀ u ∈ t :: ts, u.IsProper) {last : String} (hl : IsIdentifier last) :
    opensWith keyword next (spell (t :: ts) last) =
      (isKeyword keyword t.word && (t.gap.toList.all isBlank && next (spell ts last))) := by
  have proper := ht t List.mem_cons_self
  obtain ⟨c, cs, chars, identifier⟩ :=
    exists_spell_eq_cons (fun u hu => ht u (List.mem_cons_of_mem t hu)) hl
  have start : (spell ts last).head?.any isBlank = false := by
    rw [chars]
    exact isBlank_of_identifierChar identifier
  have ended := atWordEnd_gap proper.gap proper.between (spell ts last)
  rw [spell, opensWith_word hk proper.chars ended,
    any_dropBlanks?_gap failing proper.gap proper.between start]
  rfl

theorem opensWith_last (hk : keyword.toList.all Char.isUpper = true) {last : String}
    (hl : IsIdentifier last) : opensWith keyword next last.toList = false := by
  have whole : opensWith keyword next (last.toList ++ []) = _ :=
    opensWith_word hk (fun c hc => identifierChar_of_mem hl hc) rfl
  rw [List.append_nil] at whole
  rw [whole, dropBlanks?, List.head?_nil]
  simp

def followsKeyword (keyword : String) (next : List Char → Bool) : List Token → String → Bool
  | [], _ => false
  | t :: ts, last =>
    (isKeyword keyword t.word && (t.gap.toList.all isBlank && next (spell ts last))) ||
      followsKeyword keyword next ts last

theorem holdsAtWord_opensWith (hk : keyword.toList.all Char.isUpper = true)
    (failing : ∀ c cs, isWordChar c = false → next (c :: cs) = false) {ts : List Token}
    (ht : ∀ t ∈ ts, t.IsProper) {last : String} (hl : IsIdentifier last) :
    holdsAtWord (opensWith keyword next) ts last = followsKeyword keyword next ts last := by
  induction ts with
  | nil => exact opensWith_last hk hl
  | cons t ts ih =>
    have others := ih fun u hu => ht u (List.mem_cons_of_mem t hu)
    rw [holdsAtWord, opensWith_spell hk failing ht hl, others]
    rfl

theorem wordStartSatisfies_opensWith (hk : keyword.toList.all Char.isUpper = true)
    (nonempty : keyword.toList ≠ [])
    (failing : ∀ c cs, isWordChar c = false → next (c :: cs) = false) {ts : List Token}
    (ht : ∀ t ∈ ts, t.IsProper) {last : String} (hl : IsIdentifier last) :
    wordStartSatisfies (opensWith keyword next) false (spell ts last) =
      followsKeyword keyword next ts last := by
  rw [wordStartSatisfies_spell (opensWith_cons_of_not_wordChar hk nonempty) ht hl,
    holdsAtWord_opensWith hk failing ht hl]

end Phrase

end TableSchema.Text
