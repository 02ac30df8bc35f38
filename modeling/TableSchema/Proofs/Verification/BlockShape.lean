import Mathlib.Data.List.Infix
import TableSchema.Proofs.Sql.DollarMark
import TableSchema.Proofs.Text.LineBreak
import TableSchema.Proofs.Verification.Verdict

/-!
Blocks between the lines that open and close them. A body is found exactly in what can be read as a
block, whatever it holds, and its frame is judged by its first line and its last alone, so line
breaks in between do not matter.
-/

namespace TableSchema

namespace Verification

open Text Sql

variable {cs body : List Char}

section Frame

theorem textLines_append_feed (a b : List Char) :
    textLines (a ++ '\n' :: b) = textLines (a ++ ['\n']) ++ textLines b := by
  rw [textLines, lines_append_feed, List.map_append, List.filter_append]
  rfl

theorem isFramed_of_lines {front rest : List Char} (first : body = "BEGIN".toList ++ '\n' :: rest)
    (last : body = front ++ '\n' :: "END".toList) : isFramed body = true := by
  have opened : textLines body = "BEGIN".toList :: textLines rest := by
    rw [first, textLines_append_feed]
    rfl
  have closed : textLines body = textLines (front ++ ['\n']) ++ ["END".toList] := by
    rw [last, textLines_append_feed]
    rfl
  rw [isFramed, Bool.and_eq_true]
  constructor
  · rw [opened]
    rfl
  · rw [closed, List.getLast?_concat]
    rfl

end Frame

/-- A body between the marks: the first stands after `DO` and blanks, and blanks that end in a line
feed come behind it; the last stands on a line of its own, with `tail` behind it. -/
def enclosed (blanks gap body tail : List Char) : List Char :=
  "DO".toList ++ (blanks ++ ("$$".toList ++ (gap ++ '\n' :: (body ++ ("\n$$".toList ++ tail)))))

/-- The text can be read as a block around the body. -/
def Encloses (cs body : List Char) : Prop :=
  ∃ blanks gap tail, blanks ≠ [] ∧ IsBlankText blanks ∧ IsBlankText gap ∧
    tail ∈ [[], [';']] ∧ cs = enclosed blanks gap body tail

section Reading

theorem dropChars?_append (expected rest : List Char) :
    dropChars? expected (expected ++ rest) = some rest :=
  List.isPrefixOf?_eq_some_iff_append_eq.2 rfl

theorem dropEnd?_append (front expected : List Char) :
    dropEnd? expected (front ++ expected) = some front := by
  have found := dropChars?_append expected.reverse front.reverse
  rw [dropChars?] at found
  rw [dropEnd?, List.reverse_append, found, Option.map_some, List.reverse_reverse]

theorem eq_append_of_dropEnd? {expected front : List Char}
    (h : dropEnd? expected cs = some front) : cs = front ++ expected := by
  obtain ⟨rest, found, rfl⟩ := Option.map_eq_some_iff.1 h
  have whole := List.isPrefixOf?_eq_some_iff_append_eq.1 found
  rw [← List.reverse_inj, ← whole, List.reverse_append, List.reverse_reverse]

theorem beforeClosing?_append (front : List Char) {tail : List Char} (h : tail ∈ [[], [';']]) :
    beforeClosing? (front ++ ("\n$$".toList ++ tail)) = some front := by
  simp only [List.mem_cons, List.not_mem_nil, or_false] at h
  rcases h with rfl | rfl
  · have unclosed : dropEnd? "\n$$;".toList (front ++ "\n$$".toList) = none := by
      unfold dropEnd?
      rw [List.reverse_append]
      rfl
    rw [List.append_nil, beforeClosing?, unclosed, dropEnd?_append]
    rfl
  · have closed : "\n$$".toList ++ [';'] = "\n$$;".toList := rfl
    rw [closed, beforeClosing?, dropEnd?_append]
    rfl

theorem eq_append_of_beforeClosing? {front : List Char} (h : beforeClosing? cs = some front) :
    ∃ tail ∈ [[], [';']], cs = front ++ ("\n$$".toList ++ tail) := by
  rcases Option.or_eq_some_iff.1 h with closed | ⟨-, unclosed⟩
  · exact ⟨[';'], by simp, eq_append_of_dropEnd? closed⟩
  · exact ⟨[], by simp, eq_append_of_dropEnd? unclosed⟩

theorem dropBlanks?_append {blanks : List Char} (nonempty : blanks ≠ []) (h : IsBlankText blanks)
    {c : Char} (hc : isBlank c = false) (rest : List Char) :
    dropBlanks? (blanks ++ c :: rest) = some (c :: rest) := by
  obtain ⟨first, others, rfl⟩ := List.exists_cons_of_ne_nil nonempty
  have blank : isBlank first = true := h first List.mem_cons_self
  have dropped : (first :: others ++ c :: rest).dropWhile isBlank = c :: rest := by
    rw [List.dropWhile_append_of_pos h, List.dropWhile_cons_of_neg (by simp [hc])]
  rw [dropBlanks?, dropped]
  simp [blank]

theorem eq_append_of_dropBlanks? {rest : List Char} (h : dropBlanks? cs = some rest) :
    ∃ blanks, blanks ≠ [] ∧ IsBlankText blanks ∧ cs = blanks ++ rest := by
  unfold dropBlanks? at h
  split at h
  next blank =>
    obtain rfl := Option.some.inj h
    refine ⟨cs.takeWhile isBlank, ?_, fun c hc => List.mem_takeWhile_imp hc,
      (List.takeWhile_append_dropWhile ..).symm⟩
    cases cs with
    | nil => simp at blank
    | cons c cs =>
      have first : isBlank c = true := by simpa using blank
      simp [first]
  next => simp at h

theorem afterBlankLines?_append {gap : List Char} (h : IsBlankText gap) (body : List Char) :
    afterBlankLines? (gap ++ '\n' :: body) = some ((afterBlankLines? body).getD body) := by
  induction gap with
  | nil =>
    have feed : isBlank '\n' = true := by decide
    rw [List.nil_append, afterBlankLines?, if_pos feed, if_pos rfl]
    cases afterBlankLines? body <;> rfl
  | cons c gap ih =>
    obtain ⟨first, others⟩ := List.forall_mem_cons.1 h
    rw [List.cons_append, afterBlankLines?, if_pos first, ih others]
    rfl

theorem eq_append_of_afterBlankLines? (h : afterBlankLines? cs = some body) :
    ∃ gap, IsBlankText gap ∧ cs = gap ++ '\n' :: body := by
  induction cs with
  | nil => simp [afterBlankLines?] at h
  | cons c cs ih =>
    rw [afterBlankLines?] at h
    split at h
    next blank =>
      rcases Option.or_eq_some_iff.1 h with later | ⟨-, here⟩
      · obtain ⟨gap, blanks, rfl⟩ := ih later
        exact ⟨c :: gap, List.forall_mem_cons.2 ⟨blank, blanks⟩, rfl⟩
      · split at here
        next feed =>
          obtain rfl := Option.some.inj here
          exact ⟨[], by simp [IsBlankText], by rw [feed]; rfl⟩
        next => simp at here
    next => simp at h

theorem blockBody?_of_encloses (h : Encloses cs body) :
    blockBody? cs = some ((afterBlankLines? body).getD body) := by
  obtain ⟨blanks, gap, tail, nonempty, blank, space, mem, rfl⟩ := h
  have closing : beforeClosing? (enclosed blanks gap body tail) =
      some ("DO".toList ++ (blanks ++ ("$$".toList ++ (gap ++ '\n' :: body)))) := by
    have split := beforeClosing?_append
      ("DO".toList ++ (blanks ++ ("$$".toList ++ (gap ++ '\n' :: body)))) mem
    simpa only [enclosed, List.append_assoc, List.cons_append] using split
  have mark : dropBlanks? (blanks ++ ("$$".toList ++ (gap ++ '\n' :: body))) =
      some ("$$".toList ++ (gap ++ '\n' :: body)) :=
    dropBlanks?_append nonempty blank (by decide) _
  rw [blockBody?, closing]
  simp only [Option.bind_eq_bind, Option.bind_some, dropChars?_append, mark]
  exact afterBlankLines?_append space body

theorem encloses_of_blockBody? (h : blockBody? cs = some body) : Encloses cs body := by
  simp only [blockBody?, Option.bind_eq_bind, Option.bind_eq_some_iff] at h
  obtain ⟨front, closing, head, opened, mark, spaced, line, marked, found⟩ := h
  obtain ⟨tail, mem, rfl⟩ := eq_append_of_beforeClosing? closing
  obtain rfl := List.isPrefixOf?_eq_some_iff_append_eq.1 opened
  obtain ⟨blanks, nonempty, blank, rfl⟩ := eq_append_of_dropBlanks? spaced
  obtain rfl := List.isPrefixOf?_eq_some_iff_append_eq.1 marked
  obtain ⟨gap, space, rfl⟩ := eq_append_of_afterBlankLines? found
  refine ⟨blanks, gap, tail, nonempty, blank, space, mem, ?_⟩
  simp only [enclosed, List.append_assoc, List.cons_append]

end Reading

theorem encloses_delimited (body : String) :
    Encloses (delimited body).toList body.toList := by
  refine ⟨[' '], [], [';'], by decide, by decide, by decide, by decide, ?_⟩
  rw [toList_delimited, String.toList_append, List.append_assoc]
  rfl

theorem blockBody?_delimited {body : String} (h : body.toList.head?.any (!isBlank ·) = true) :
    blockBody? (delimited body).toList = some body.toList := by
  have early : afterBlankLines? body.toList = none := by
    cases chars : body.toList with
    | nil => rfl
    | cons c cs =>
      have plain : isBlank c = false := by simpa [chars] using h
      rw [afterBlankLines?, plain]
      rfl
  rw [blockBody?_of_encloses (encloses_delimited body), early, Option.getD_none]

def blockVerdict (block : String) (problems : List Problem) : Verdict where
  statement := block
  notes := { length := block.length, kind := some "do_block" }
  rejection := if problems = [] then none else some ⟨.parseError, problems⟩

theorem isAccepted_blockVerdict (block : String) (problems : List Problem) :
    (blockVerdict block problems).isAccepted = true ↔ problems = [] := by
  by_cases none : problems = [] <;> simp [blockVerdict, Verdict.isAccepted, none]

namespace Verifier

theorem judge_block (v : Verifier) {statement : String}
    (block : beginsWith "DO " statement = true) :
    v.judge statement = blockVerdict statement (blockProblems statement.toList) := by
  have nonempty : statement ≠ "" := by
    rintro rfl
    exact absurd block (by decide)
  unfold judge blockVerdict
  rw [if_neg nonempty, if_pos block]
  cases problems : blockProblems statement.toList with
  | nil => rfl
  | cons problem others => rfl

theorem verify_delimited (v : Verifier) (body : String) :
    (v.verify (.text (delimited body))).outcome =
      .ok (blockVerdict (delimited body) (blockProblems (delimited body).toList)) := by
  have first : (delimited body).toList.head?.any isBlank = false := by
    rw [toList_delimited]
    rfl
  have last : (delimited body).toList.getLast?.any isBlank = false := by
    rw [toList_delimited, ← List.append_assoc, List.getLast?_append]
    rfl
  have block : beginsWith "DO " (delimited body) = true := by
    rw [beginsWith, toList_delimited, upperChars_append]
    rfl
  rw [verify_text_outcome, strip_eq_self first last, judge_block v block]

end Verifier

end Verification

end TableSchema
