import TableSchema.Text.Lines

/-!
Texts cut into lines. A line feed cuts a text in two, whatever stands on its two sides, and the
lines hold no character that the text does not hold.
-/

namespace TableSchema.Text

variable {c : Char} {cs : List Char}

theorem lines_of_break (single : ∀ rest, c = '\r' → cs = '\n' :: rest → False)
    (h : isLineBreak c = true) : lines (c :: cs) = [] :: lines cs := by
  rw [lines]
  · rw [if_pos h]
  · exact single

theorem lines_of_plain (h : isLineBreak c = false) {line : List Char} {rest : List (List Char)}
    (found : lines cs = line :: rest) : lines (c :: cs) = (c :: line) :: rest := by
  rw [lines]
  · rw [if_neg (by simp [h]), found]
  · rintro rest rfl
    exact absurd h (by decide)

theorem lines_ne_nil (h : cs ≠ []) : lines cs ≠ [] := by
  fun_cases lines cs with
  | case1 => exact absurd rfl h
  | _ => simp

theorem lines_append_feed (a b : List Char) :
    lines (a ++ '\n' :: b) = lines (a ++ ['\n']) ++ lines b := by
  have feed (b : List Char) : lines ('\n' :: b) = [] :: lines b :=
    lines_of_break (fun _ carriage => absurd carriage (by decide)) (by decide)
  have extended {c : Char} {cs : List Char} (plain : ¬ isLineBreak c = true)
      (ih : lines (cs ++ '\n' :: b) = lines (cs ++ ['\n']) ++ lines b) :
      lines (c :: cs ++ '\n' :: b) = lines (c :: cs ++ ['\n']) ++ lines b := by
    obtain ⟨line, others, found⟩ := List.exists_cons_of_ne_nil
      (lines_ne_nil (List.append_ne_nil_of_right_ne_nil cs (List.cons_ne_nil '\n' [])))
    rw [found, List.cons_append] at ih
    rw [List.cons_append, List.cons_append, lines_of_plain (Bool.not_eq_true _ ▸ plain) ih,
      lines_of_plain (Bool.not_eq_true _ ▸ plain) found, List.cons_append]
  fun_induction lines a with
  | case1 => exact feed b
  | case2 cs ih => simp [lines, ih]
  | case3 c cs single ends ih =>
    by_cases pair : c = '\r' ∧ cs = []
    · obtain ⟨rfl, rfl⟩ := pair
      simp [lines]
    · have apart (rest : List Char) : ∀ others, c = '\r' → cs ++ '\n' :: rest = '\n' :: others →
          False := by
        rintro others rfl same
        cases cs with
        | nil => exact pair ⟨rfl, rfl⟩
        | cons next cs =>
          obtain ⟨rfl, -⟩ := List.cons.inj same
          exact single cs rfl rfl
      rw [List.cons_append, List.cons_append, lines_of_break (apart b) ends,
        lines_of_break (apart []) ends, ih, List.cons_append]
  | case4 c cs single plain none ih => exact extended plain ih
  | case5 c cs single plain line rest found ih => exact extended plain ih

theorem mem_of_mem_lines {line : List Char} (h : line ∈ lines cs) : ∀ c ∈ line, c ∈ cs := by
  fun_induction lines cs generalizing line with
  | case1 => exact absurd h List.not_mem_nil
  | case2 cs ih =>
    rcases List.mem_cons.1 h with rfl | h
    · simp
    · exact fun c hc => List.mem_cons_of_mem _ (List.mem_cons_of_mem _ (ih h c hc))
  | case3 x cs single ends ih =>
    rcases List.mem_cons.1 h with rfl | h
    · simp
    · exact fun c hc => List.mem_cons_of_mem x (ih h c hc)
  | case4 x cs single plain none ih =>
    obtain rfl := List.mem_singleton.1 h
    simp
  | case5 x cs single plain first rest found ih =>
    rw [found] at ih
    rcases List.mem_cons.1 h with rfl | h
    · intro c hc
      rcases List.mem_cons.1 hc with rfl | hc
      · exact List.mem_cons_self
      · exact List.mem_cons_of_mem x (ih List.mem_cons_self c hc)
    · exact fun c hc => List.mem_cons_of_mem x (ih (List.mem_cons_of_mem first h) c hc)

end TableSchema.Text
