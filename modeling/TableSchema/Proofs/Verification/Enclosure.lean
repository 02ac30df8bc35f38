import TableSchema.Proofs.Text.PhraseCount
import TableSchema.Proofs.Verification.Decision

/-!
Blocks taken apart. A block can be read in more than one way where blank lines come before its body,
but the verdict is the same for each, and what is accepted holds its two marks alone.
-/

namespace TableSchema

namespace Verification

open Text Sql

variable {cs body : List Char}

section Soundness

/-- The body holds no mark, its first line but for blank ones is `BEGIN` and the last one `END`, in
any case, and it closes as many conditions as it opens. -/
structure IsSound (body : List Char) : Prop where
  unmarked : hasMark body = false
  opened : ((textLines body).map upperChars).head? = some "BEGIN".toList
  closed : ((textLines body).map upperChars).getLast? = some "END".toList
  balanced : occurrences "IF NOT EXISTS".toList (upperChars body) =
    occurrences "END IF;".toList (upperChars body)

theorem isFramed_iff (body : List Char) :
    isFramed body = true ↔
      ((textLines body).map upperChars).head? = some "BEGIN".toList ∧
        ((textLines body).map upperChars).getLast? = some "END".toList := by
  have any_iff (found : Option (List Char)) (word : List Char) :
      (found.any fun line => upperChars line == word) = true ↔
        found.map upperChars = some word := by
    cases found <;> simp
  rw [isFramed, Bool.and_eq_true, any_iff, any_iff, List.head?_map, List.getLast?_map]

theorem blockProblems_eq_nil_iff (cs : List Char) :
    blockProblems cs = [] ↔ ∃ body, blockBody? cs = some body ∧ IsSound body := by
  unfold blockProblems
  cases blockBody? cs with
  | none => simp
  | some body =>
    simp only [Option.some.injEq, exists_eq_left']
    rw [List.append_eq_nil_iff, List.append_eq_nil_iff, ite_eq_right_iff, ite_eq_left_iff,
      ite_eq_left_iff]
    constructor
    · rintro ⟨⟨unmarked, framed⟩, balanced⟩
      have frame : isFramed body = true := by simpa using framed
      obtain ⟨opened, closed⟩ := (isFramed_iff body).1 frame
      exact ⟨by simpa [hasMark] using unmarked, opened, closed,
        by simpa [isBalanced] using balanced⟩
    · rintro ⟨unmarked, opened, closed, balanced⟩
      have frame := (isFramed_iff body).2 ⟨opened, closed⟩
      refine ⟨⟨fun marked => ?_, fun unframed => absurd frame unframed⟩, fun unbalanced => ?_⟩
      · rw [hasMark, marked] at unmarked
        exact absurd unmarked (by decide)
      · exact absurd (beq_iff_eq.2 balanced) unbalanced

theorem textLines_of_isBlankText (h : IsBlankText cs) : textLines cs = [] := by
  refine List.filter_eq_nil_iff.2 fun line mem => ?_
  obtain ⟨whole, listed, rfl⟩ := List.mem_map.1 mem
  have blank : IsBlankText whole := fun c hc => h c (mem_of_mem_lines listed c hc)
  simp [(stripChars_eq_nil_iff whole).2 blank]

theorem isSound_append_iff {gap : List Char} (h : IsBlankText gap) (body : List Char) :
    IsSound (gap ++ '\n' :: body) ↔ IsSound body := by
  have blank : IsBlankText (gap ++ ['\n']) := h.append (by decide)
  have lead : gap ++ '\n' :: body = (gap ++ ['\n']) ++ body := by simp
  have marks : hasMark (gap ++ '\n' :: body) = hasMark body := by
    rw [lead]
    exact hasMark_plain_append (blank.not_mem (by decide)) body
  have texts : textLines (gap ++ '\n' :: body) = textLines body := by
    rw [textLines_append_feed, textLines_of_isBlankText blank, List.nil_append]
  have count (c : Char) (hc : isBlank c = false) (phrase : List Char) :
      occurrences (c :: phrase) (upperChars (gap ++ '\n' :: body)) =
        occurrences (c :: phrase) (upperChars body) := by
    rw [lead, upperChars_append, upperChars_of_isBlankText blank]
    exact occurrences_append_of_not_mem (blank.not_mem hc) _
  have opened := count 'I' (by decide) "F NOT EXISTS".toList
  have ended := count 'E' (by decide) "ND IF;".toList
  constructor
  · rintro ⟨unmarked, first, last, balanced⟩
    rw [texts] at first last
    exact ⟨marks ▸ unmarked, first, last, opened.symm.trans (balanced.trans ended)⟩
  · rintro ⟨unmarked, first, last, balanced⟩
    rw [← texts] at first last
    exact ⟨marks ▸ unmarked, first, last, opened.trans (balanced.trans ended.symm)⟩

/-- Whichever body a block is read with, it is the soundness of that body that counts. -/
theorem blockProblems_eq_nil_iff_of_encloses (h : Encloses cs body) :
    blockProblems cs = [] ↔ IsSound body := by
  rw [blockProblems_eq_nil_iff, blockBody?_of_encloses h]
  simp only [Option.some.injEq, exists_eq_left']
  cases later : afterBlankLines? body with
  | none => rfl
  | some rest =>
    obtain ⟨gap, blank, rfl⟩ := eq_append_of_afterBlankLines? later
    exact (isSound_append_iff blank rest).symm

end Soundness

section Marks

variable {blanks gap tail : List Char}

def between (gap body : List Char) : List Char :=
  gap ++ '\n' :: (body ++ ['\n'])

theorem enclosed_eq (blanks gap body tail : List Char) :
    enclosed blanks gap body tail =
      ("DO".toList ++ blanks) ++ ("$$".toList ++ (between gap body ++ ("$$".toList ++ tail))) := by
  simp [enclosed, between]

theorem hasMark_between (space : IsBlankText gap) (body : List Char) :
    hasMark (between gap body) = hasMark body := by
  have plain : '$' ∉ gap ++ ['\n'] := (space.append (by decide)).not_mem (by decide)
  have lead : between gap body = (gap ++ ['\n']) ++ (body ++ ['\n']) := by simp [between]
  rw [lead, hasMark_plain_append plain, hasMark_append_plain _ (by decide)]

theorem head?_between_append (space : IsBlankText gap) (body rest : List Char) :
    (between gap body ++ rest).head? ≠ some '$' := by
  cases gap with
  | nil => simp [between]
  | cons c gap =>
    have other : c ≠ '$' := by
      rintro rfl
      exact space.not_mem (by decide) List.mem_cons_self
    simpa [between] using other

theorem getLast?_between (gap body : List Char) : (between gap body).getLast? ≠ some '$' := by
  have feed : between gap body = (gap ++ '\n' :: body) ++ ['\n'] := by simp [between]
  rw [feed, List.getLast?_concat]
  decide

theorem marksFrom_closing (place : Nat) (h : tail ∈ [[], [';']]) :
    marksFrom place ("$$".toList ++ tail) = [place] := by
  simp only [List.mem_cons, List.not_mem_nil, or_false] at h
  rcases h with rfl | rfl <;> simp [marksFrom]

theorem marksFrom_enclosed (blank : IsBlankText blanks) (space : IsBlankText gap)
    (mem : tail ∈ [[], [';']]) (unmarked : hasMark body = false) :
    marksFrom 0 (enclosed blanks gap body tail) =
      [("DO".toList ++ blanks).length,
        ("DO".toList ++ blanks).length + 2 + (between gap body).length] := by
  have plain : '$' ∉ "DO".toList ++ blanks := by
    rw [List.mem_append, not_or]
    exact ⟨by decide, blank.not_mem (by decide)⟩
  have inner (place : Nat) : marksFrom place (between gap body) = [] := by
    rw [marksFrom_eq_nil_iff, hasMark_between space, unmarked]
  rw [enclosed_eq, marksFrom_plain_append 0 plain,
    marksFrom_mark _ (head?_between_append space body _),
    marksFrom_append _ _ (getLast?_between gap body), inner, marksFrom_closing _ mem,
    List.nil_append, Nat.zero_add]

theorem dollarMarks_of_encloses {s : String} (h : Encloses s.toList body)
    (unmarked : hasMark body = false) :
    ∃ opening closing, dollarMarks s = [opening, closing] ∧
      (∃ blanks, IsBlankText blanks ∧ s.toList.take opening = "DO".toList ++ blanks) ∧
      s.toList.drop (closing + 2) ∈ [[], [';']] := by
  obtain ⟨blanks, gap, tail, -, blank, space, mem, whole⟩ := h
  have marks := marksFrom_enclosed blank space mem unmarked
  rw [← whole] at marks
  refine ⟨_, _, marks, ⟨blanks, blank, ?_⟩, ?_⟩
  · rw [whole, enclosed_eq, List.take_left]
  · have front : s.toList =
        ("DO".toList ++ blanks ++ ("$$".toList ++ (between gap body ++ "$$".toList))) ++ tail := by
      simp [whole, enclosed_eq]
    have length : ("DO".toList ++ blanks ++
        ("$$".toList ++ (between gap body ++ "$$".toList))).length =
          ("DO".toList ++ blanks).length + 2 + (between gap body).length + 2 := by
      simp only [List.length_append]
      have two : "$$".toList.length = 2 := rfl
      omega
    rw [front, ← length, List.drop_left]
    exact mem

end Marks

section Acceptance

namespace Verifier

variable {v : Verifier} {s : String}

/-- The verifier takes the text for a block, asking no parser, and accepts it. -/
def AcceptsBlock (v : Verifier) (s : String) : Prop :=
  ∃ verdict, (v.verify (.text s)).outcome = .ok verdict ∧ verdict.isAccepted = true ∧
    verdict.notes.kind = some "do_block" ∧ verdict.parserCalls = []

theorem acceptsBlock_iff (v : Verifier) (s : String) :
    v.AcceptsBlock s ↔ beginsWith "DO " (strip s) = true ∧ blockProblems (strip s).toList = [] := by
  constructor
  · rintro ⟨verdict, answer, accepted, -, unasked⟩
    rw [verify_text_outcome] at answer
    obtain rfl := Except.ok.inj answer
    obtain ⟨-, calls, accepts, -⟩ := isVerdictOn_judge v (strip s)
    rcases accepts.1 (by simpa [Verdict.isAccepted] using accepted) with block | ⟨asks, -⟩
    · exact block
    · rw [calls, if_pos asks] at unasked
      simp at unasked
  · rintro ⟨block, sound⟩
    refine ⟨_, verify_text_outcome v s, ?_⟩
    rw [judge_block v block]
    exact ⟨(isAccepted_blockVerdict ..).2 sound, rfl, rfl⟩

structure SettlesBlock (v : Verifier) (s : String) : Prop where
  accepts : v.AcceptsBlock s ↔ ∃ body, Encloses s.toList body ∧ IsSound body
  /-- In whichever way the text is read as a block, the verdict is the same. -/
  determined : ∀ body, Encloses s.toList body → (v.AcceptsBlock s ↔ IsSound body)
  /-- Of what is accepted, all but a semicolon lies between two marks that nothing but `DO` comes
  before. -/
  alone : v.AcceptsBlock s → ∃ opening closing, dollarMarks s = [opening, closing] ∧
    (∃ blanks, IsBlankText blanks ∧ s.toList.take opening = "DO".toList ++ blanks) ∧
    s.toList.drop (closing + 2) ∈ [[], [';']]

theorem verify_block (v : Verifier) {s : String} (stripped : strip s = s)
    (block : beginsWith "DO " s = true) : v.SettlesBlock s := by
  have verdict : v.AcceptsBlock s ↔ blockProblems s.toList = [] := by
    rw [acceptsBlock_iff, stripped, and_iff_right block]
  have accepts : v.AcceptsBlock s ↔ ∃ body, Encloses s.toList body ∧ IsSound body := by
    rw [verdict]
    constructor
    · intro none
      obtain ⟨body, found, sound⟩ := (blockProblems_eq_nil_iff _).1 none
      exact ⟨body, encloses_of_blockBody? found, sound⟩
    · rintro ⟨body, encloses, sound⟩
      exact (blockProblems_eq_nil_iff_of_encloses encloses).2 sound
  refine ⟨accepts, fun body encloses => ?_, fun accepted => ?_⟩
  · rw [verdict, blockProblems_eq_nil_iff_of_encloses encloses]
  · obtain ⟨body, encloses, sound⟩ := accepts.1 accepted
    exact dollarMarks_of_encloses encloses sound.unmarked

def spacedBlock : String :=
  "DO \u2003$$ \r\n\n begin\n if not exists (x) then\n end if;\nEnd \n$$"

def spacedBody : String :=
  " begin\n if not exists (x) then\n end if;\nEnd "

theorem verify_block_of_spacedBlock :
    unreading.AcceptsBlock spacedBlock ∧ IsSound ('\n' :: spacedBody.toList) ∧
      dollarMarks spacedBlock = [4, 55] := by
  have settles := verify_block unreading (s := spacedBlock) (by decide) (by decide)
  have late : Encloses spacedBlock.toList spacedBody.toList :=
    ⟨" \u2003".toList, " \r\n".toList, [], by decide, by decide, by decide, by decide, by decide⟩
  have early : Encloses spacedBlock.toList ('\n' :: spacedBody.toList) :=
    ⟨" \u2003".toList, " \r".toList, [], by decide, by decide, by decide, by decide, by decide⟩
  have sound : IsSound spacedBody.toList :=
    ⟨by decide, by decide, by decide, by decide⟩
  have accepted := (settles.determined _ late).2 sound
  exact ⟨accepted, (settles.determined _ early).1 accepted, by decide⟩

end Verifier

end Acceptance

end Verification

end TableSchema
