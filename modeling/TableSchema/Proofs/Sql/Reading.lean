import TableSchema.Literal

/-!
Statements as a database reads them, from left to right. A quote opens a literal; inside, two quotes
stand for one, and a quote that no other follows closes the literal. A text is read alike wherever
it stands, provided that what follows it does not begin with a quote.
-/

namespace TableSchema.Sql

/-- What is left of a text without the contents of its literals, those contents decoded and in
order, and whether the text ends outside of any literal. -/
structure Reading where
  skeleton : List Char
  contents : List String
  outside : Bool
  deriving DecidableEq, Repr

def Reading.after (skeleton : List Char) (contents : List String) (r : Reading) : Reading :=
  ⟨skeleton ++ r.skeleton, contents ++ r.contents, r.outside⟩

/-- Reads on: outside of any literal, or inside one of which `decoded` has been read. -/
def readFrom : Option (List Char) → List Char → Reading
  | none, [] => ⟨[], [], true⟩
  | some decoded, [] => ⟨[], [String.ofList decoded], false⟩
  | none, c :: cs => (readFrom (if c = '\'' then some [] else none) cs).after [c] []
  | some decoded, '\'' :: '\'' :: cs => readFrom (some (decoded ++ ['\''])) cs
  | some decoded, c :: cs =>
    if c = '\'' then (readFrom none cs).after [c] [String.ofList decoded]
    else readFrom (some (decoded ++ [c])) cs

def read (sql : String) : Reading :=
  readFrom none sql.toList

theorem Reading.after_after (s t : List Char) (a b : List String) (r : Reading) :
    (r.after t b).after s a = r.after (s ++ t) (a ++ b) := by
  simp [Reading.after]

theorem readFrom_none_cons (c : Char) (cs : List Char) :
    readFrom none (c :: cs) = (readFrom (if c = '\'' then some [] else none) cs).after [c] [] := by
  rw [readFrom]

theorem readFrom_some_two_quotes (decoded cs : List Char) :
    readFrom (some decoded) ('\'' :: '\'' :: cs) = readFrom (some (decoded ++ ['\''])) cs := by
  rw [readFrom]

theorem readFrom_some_ne (decoded : List Char) {c : Char} (h : c ≠ '\'') (cs : List Char) :
    readFrom (some decoded) (c :: cs) = readFrom (some (decoded ++ [c])) cs := by
  rw [readFrom, if_neg h]
  intro _ quote
  exact absurd quote h

theorem readFrom_some_close (decoded : List Char) {cs : List Char} (h : cs.head? ≠ some '\'') :
    readFrom (some decoded) ('\'' :: cs) =
      (readFrom none cs).after ['\''] [String.ofList decoded] := by
  rw [readFrom, if_pos rfl]
  rintro rest - rfl
  exact h rfl

/-- The text leaves this skeleton and these contents, whatever follows it but a quote. -/
def Reads (cs skeleton : List Char) (contents : List String) : Prop :=
  ∀ rest : List Char, rest.head? ≠ some '\'' →
    readFrom none (cs ++ rest) = (readFrom none rest).after skeleton contents

theorem readFrom_plain_append {cs : List Char} (h : '\'' ∉ cs) (rest : List Char) :
    readFrom none (cs ++ rest) = (readFrom none rest).after cs [] := by
  induction cs with
  | nil => simp [Reading.after]
  | cons c cs ih =>
    have noQuote : c ≠ '\'' := fun quote => h (by simp [quote])
    have plain := ih fun mem => h (List.mem_cons_of_mem c mem)
    rw [List.cons_append, readFrom_none_cons, if_neg noQuote, plain, Reading.after_after]
    rfl

theorem readFrom_doubled_append (decoded cs : List Char) {rest : List Char}
    (h : rest.head? ≠ some '\'') :
    readFrom (some decoded) (Literal.doubleQuotes cs ++ '\'' :: rest) =
      (readFrom none rest).after ['\''] [String.ofList (decoded ++ cs)] := by
  induction cs generalizing decoded with
  | nil => rw [List.append_nil]; exact readFrom_some_close decoded h
  | cons c cs ih =>
    by_cases quote : c = '\''
    · rw [Literal.doubleQuotes, if_pos quote, List.cons_append, List.cons_append,
        readFrom_some_two_quotes, ih, quote, List.append_assoc]
      rfl
    · rw [Literal.doubleQuotes, if_neg quote, List.cons_append, readFrom_some_ne _ quote, ih,
        List.append_assoc]
      rfl

namespace Reads

variable {a b p sep skeleton skeleton' : List Char} {contents contents' : List String}

theorem nil : Reads [] [] [] :=
  fun _ _ => rfl

theorem literal (cs : List Char) :
    Reads (Literal.quotedChars cs) ['\'', '\''] [String.ofList cs] := by
  intro rest h
  have closed := readFrom_doubled_append [] cs h
  rw [Literal.quotedChars, List.append_assoc, List.cons_append, readFrom_none_cons, if_pos rfl]
  rw [List.singleton_append, closed, Reading.after_after]
  rfl

theorem plain_append (hp : '\'' ∉ p) (h : Reads a skeleton contents) :
    Reads (p ++ a) (p ++ skeleton) contents := by
  intro rest hr
  rw [List.append_assoc, readFrom_plain_append hp, h rest hr, Reading.after_after]
  rfl

theorem plain (hp : '\'' ∉ p) : Reads p p [] := by
  have whole := plain_append hp nil
  rwa [List.append_nil] at whole

theorem append (ha : Reads a skeleton contents) (hb : Reads b skeleton' contents')
    (start : b.head? ≠ some '\'') :
    Reads (a ++ b) (skeleton ++ skeleton') (contents ++ contents') := by
  intro rest hr
  have next : (b ++ rest).head? ≠ some '\'' := by
    cases b with
    | nil => exact hr
    | cons c cs => exact start
  rw [List.append_assoc, ha _ next, hb rest hr, Reading.after_after]

end Reads

theorem read_of_reads {sql : String} {skeleton : List Char} {contents : List String}
    (h : Reads sql.toList skeleton contents) : read sql = ⟨skeleton, contents, true⟩ := by
  have whole := h [] (by simp)
  rw [List.append_nil] at whole
  rw [read, whole]
  simp [readFrom, Reading.after]

theorem read_plain {s : String} (h : '\'' ∉ s.toList) : read s = ⟨s.toList, [], true⟩ :=
  read_of_reads (Reads.plain h)

theorem read_quote (s : String) : read (Literal.quote s) = ⟨['\'', '\''], [s], true⟩ := by
  have literal := Reads.literal s.toList
  rw [← Literal.toList_quote, String.ofList_toList] at literal
  exact read_of_reads literal

section Inversion

variable {decoded cs : List Char} {s : String}

theorem eq_nil_of_skeleton (h : (readFrom none cs).skeleton = []) : cs = [] := by
  cases cs with
  | nil => rfl
  | cons c cs =>
    rw [readFrom_none_cons] at h
    exact absurd h (List.cons_ne_nil c _)

theorem exists_doubled_of_skeleton (h : (readFrom (some decoded) cs).skeleton = ['\'']) :
    ∃ text, cs = Literal.doubleQuotes text ++ ['\''] ∧
      (readFrom (some decoded) cs).contents = [String.ofList (decoded ++ text)] := by
  generalize entry : some decoded = inside at h ⊢
  fun_induction readFrom inside cs generalizing decoded with
  | case1 => exact absurd entry (Option.some_ne_none decoded)
  | case2 => exact absurd h (List.cons_ne_nil _ _).symm
  | case3 => exact absurd entry (Option.some_ne_none decoded)
  | case4 before cs ih =>
    obtain rfl := Option.some.inj entry
    obtain ⟨text, rfl, contents⟩ := ih rfl h
    refine ⟨'\'' :: text, ?_, ?_⟩
    · rw [Literal.doubleQuotes, if_pos rfl]
      rfl
    · rw [contents, List.append_assoc]
      rfl
  | case5 before cs _ _ =>
    obtain rfl := Option.some.inj entry
    obtain rfl := eq_nil_of_skeleton (List.cons.inj h).2
    exact ⟨[], rfl, by rw [List.append_nil]; rfl⟩
  | case6 before c cs _ plain ih =>
    obtain rfl := Option.some.inj entry
    obtain ⟨text, rfl, contents⟩ := ih rfl h
    refine ⟨c :: text, ?_, ?_⟩
    · rw [Literal.doubleQuotes, if_neg plain]
      rfl
    · rw [contents, List.append_assoc]
      rfl

theorem exists_quote_of_skeleton (h : (read s).skeleton = ['\'', '\'']) :
    ∃ t, s = Literal.quote t ∧ (read s).contents = [t] := by
  rw [read] at h ⊢
  cases chars : s.toList with
  | nil =>
    rw [chars] at h
    exact absurd h (List.cons_ne_nil _ _).symm
  | cons c cs =>
    rw [chars, readFrom_none_cons] at h
    obtain ⟨rfl, closing⟩ := List.cons.inj h
    rw [if_pos rfl] at closing
    obtain ⟨text, rfl, contents⟩ := exists_doubled_of_skeleton closing
    refine ⟨String.ofList text, ?_, ?_⟩
    · rw [← String.toList_inj, chars, Literal.toList_quote, String.toList_ofList,
        Literal.quotedChars, List.cons_append]
    · rw [readFrom_none_cons, if_pos rfl]
      exact contents

end Inversion

end TableSchema.Sql
