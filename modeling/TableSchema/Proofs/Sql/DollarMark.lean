import TableSchema.Literal
import TableSchema.Text.Occurrence

/-!
The mark `$$` that opens and closes the body of a block: the places of all marks of a text, those
that overlap included, and how marks come about when texts are put together. A literal holds a mark
exactly when the text that it was made from does.
-/

namespace TableSchema.Sql

open Text (occurs)

/-- The places at which two dollar signs stand side by side, where the text begins at `place`. -/
def marksFrom (place : Nat) : List Char → List Nat
  | [] => []
  | c :: cs =>
    (if c = '$' ∧ cs.head? = some '$' then [place] else []) ++ marksFrom (place + 1) cs

def dollarMarks (sql : String) : List Nat :=
  marksFrom 0 sql.toList

def hasMark (cs : List Char) : Bool :=
  occurs "$$".toList cs

theorem hasMark_nil : hasMark [] = false := rfl

theorem hasMark_cons (c : Char) (cs : List Char) :
    hasMark (c :: cs) = (decide (c = '$' ∧ cs.head? = some '$') || hasMark cs) := by
  have mark : "$$".toList = ['$', '$'] := rfl
  rw [hasMark, occurs, hasMark, mark]
  cases cs with
  | nil => simp
  | cons next rest =>
    have pair : List.isPrefixOf ['$', '$'] (c :: next :: rest) =
        decide (c = '$' ∧ next = '$') := by
      simp only [List.isPrefixOf, Bool.and_true, Bool.decide_and, Bool.beq_comm (a := '$')]
      rfl
    rw [pair]
    simp

theorem marksFrom_eq_nil_iff (place : Nat) (cs : List Char) :
    marksFrom place cs = [] ↔ hasMark cs = false := by
  induction cs generalizing place with
  | nil => simp [marksFrom, hasMark_nil]
  | cons c cs ih =>
    rw [marksFrom, hasMark_cons, List.append_eq_nil_iff, ih, Bool.or_eq_false_iff]
    by_cases pair : c = '$' ∧ cs.head? = some '$' <;> simp [pair]

theorem marksFrom_append (place : Nat) {a : List Char} (b : List Char)
    (h : a.getLast? ≠ some '$') :
    marksFrom place (a ++ b) = marksFrom place a ++ marksFrom (place + a.length) b := by
  induction a generalizing place with
  | nil => simp [marksFrom]
  | cons c a ih =>
    cases a with
    | nil =>
      have plain : c ≠ '$' := by simpa using h
      simp [marksFrom, plain]
    | cons next a =>
      have ended : (next :: a).getLast? ≠ some '$' := by simpa using h
      have shift : place + 1 + (next :: a).length = place + (c :: next :: a).length := by
        simp only [List.length_cons]
        omega
      calc marksFrom place (c :: (next :: a ++ b))
        _ = (if c = '$' ∧ (next :: a ++ b).head? = some '$' then [place] else []) ++
              marksFrom (place + 1) (next :: a ++ b) := rfl
        _ = (if c = '$' ∧ (next :: a).head? = some '$' then [place] else []) ++
              (marksFrom (place + 1) (next :: a) ++
                marksFrom (place + (c :: next :: a).length) b) := by
            rw [ih (place + 1) ended, shift]
            rfl
        _ = marksFrom place (c :: next :: a) ++
              marksFrom (place + (c :: next :: a).length) b := by
            rw [← List.append_assoc]
            rfl

section Composition

variable {p a b : List Char}

theorem hasMark_plain_append (hp : '$' ∉ p) (a : List Char) : hasMark (p ++ a) = hasMark a := by
  induction p with
  | nil => rfl
  | cons c p ih =>
    have plain : c ≠ '$' := fun dollar => hp (by simp [dollar])
    have rest := ih fun mem => hp (List.mem_cons_of_mem c mem)
    rw [List.cons_append, hasMark_cons, rest]
    simp [plain]

theorem hasMark_of_plain (hp : '$' ∉ p) : hasMark p = false := by
  have whole := hasMark_plain_append hp []
  rwa [List.append_nil, hasMark_nil] at whole

theorem hasMark_append (a : List Char) (hb : b.head? ≠ some '$') :
    hasMark (a ++ b) = (hasMark a || hasMark b) := by
  induction a with
  | nil => simp [hasMark_nil]
  | cons c a ih =>
    have next : (a ++ b).head? = some '$' ↔ a.head? = some '$' := by
      cases a with
      | nil => simp [hb]
      | cons => rfl
    rw [List.cons_append, hasMark_cons, hasMark_cons, ih, Bool.or_assoc]
    simp only [next]

theorem hasMark_append_plain (a : List Char) (hp : '$' ∉ p) : hasMark (a ++ p) = hasMark a := by
  have start : p.head? ≠ some '$' := by
    intro dollar
    exact hp (List.mem_of_mem_head? (by simp [dollar]))
  rw [hasMark_append a start, hasMark_of_plain hp, Bool.or_false]

theorem hasMark_intercalate {sep : String} (hs : '$' ∉ sep.toList) (nonempty : sep.toList ≠ [])
    (l : List String) :
    hasMark (sep.intercalate l).toList = l.any fun s => hasMark s.toList := by
  induction l with
  | nil => rfl
  | cons s l ih =>
    cases l with
    | nil => simp
    | cons t l =>
      have start : (sep.toList ++ (sep.intercalate (t :: l)).toList).head? ≠ some '$' := by
        cases chars : sep.toList with
        | nil => exact absurd chars nonempty
        | cons c cs =>
          have plain : c ≠ '$' := fun dollar => hs (by simp [chars, dollar])
          simpa using plain
      rw [String.intercalate_cons_cons, String.append_assoc, String.toList_append,
        String.toList_append, hasMark_append _ start, hasMark_plain_append hs, ih]
      rfl

theorem head?_doubleQuotes (cs : List Char) : (Literal.doubleQuotes cs).head? = cs.head? := by
  cases cs with
  | nil => rfl
  | cons c cs =>
    by_cases quote : c = '\'' <;> simp [Literal.doubleQuotes, quote]

theorem hasMark_doubleQuotes (cs : List Char) :
    hasMark (Literal.doubleQuotes cs) = hasMark cs := by
  induction cs with
  | nil => rfl
  | cons c cs ih =>
    by_cases quote : c = '\''
    · rw [Literal.doubleQuotes, if_pos quote, hasMark_cons, hasMark_cons, hasMark_cons, ih]
      simp [quote]
    · rw [Literal.doubleQuotes, if_neg quote, hasMark_cons, hasMark_cons, ih, head?_doubleQuotes]

theorem hasMark_quote (s : String) : hasMark (Literal.quote s).toList = hasMark s.toList := by
  have closing := hasMark_append_plain (Literal.doubleQuotes s.toList)
    (show '$' ∉ ['\''] by decide)
  rw [Literal.toList_quote, Literal.quotedChars, List.cons_append, hasMark_cons, closing,
    hasMark_doubleQuotes]
  simp

theorem marksFrom_mark (place : Nat) (h : a.head? ≠ some '$') :
    marksFrom place ("$$".toList ++ a) = place :: marksFrom (place + 2) a := by
  have mark : "$$".toList ++ a = '$' :: '$' :: a := rfl
  have second : ¬ ('$' = '$' ∧ a.head? = some '$') := fun dollar => h dollar.2
  rw [mark, marksFrom, marksFrom, if_pos ⟨rfl, rfl⟩, if_neg second]
  rfl

theorem marksFrom_plain_append (place : Nat) (hp : '$' ∉ p) (a : List Char) :
    marksFrom place (p ++ a) = marksFrom (place + p.length) a := by
  rw [marksFrom_append place a fun dollar => hp (List.mem_of_getLast? dollar),
    (marksFrom_eq_nil_iff place p).2 (hasMark_of_plain hp), List.nil_append]

end Composition

/-- The block holds no marks but that of its first line and that of its last. -/
def IsIntact (block : String) : Prop :=
  dollarMarks block = [3, block.length - 3]

instance (block : String) : Decidable (IsIntact block) :=
  inferInstanceAs (Decidable (_ = _))

def delimited (body : String) : String :=
  "\n".intercalate ["DO $$", body, "$$;"]

theorem toList_delimited (body : String) :
    (delimited body).toList =
      "DO $$\n".toList ++ ((body ++ "\n").toList ++ "$$;".toList) := by
  simp only [delimited, String.intercalate_cons_cons, String.intercalate_singleton,
    String.toList_append, List.append_assoc]
  rfl

theorem dollarMarks_delimited (body : String) :
    dollarMarks (delimited body) =
      3 :: (marksFrom 6 (body ++ "\n").toList ++ [(delimited body).length - 3]) := by
  have opened : ("DO $$\n".toList).getLast? ≠ some '$' := by decide
  have ended : ((body ++ "\n").toList).getLast? ≠ some '$' := by
    have newline : "\n".toList = ['\n'] := rfl
    rw [String.toList_append, newline, List.getLast?_concat]
    decide
  have last : 6 + (body ++ "\n").toList.length = (delimited body).length - 3 := by
    have six : "DO $$\n".toList.length = 6 := rfl
    have three : "$$;".toList.length = 3 := rfl
    rw [← String.length_toList, toList_delimited, List.length_append, List.length_append]
    omega
  calc dollarMarks (delimited body)
    _ = marksFrom 0 "DO $$\n".toList ++
          (marksFrom 6 (body ++ "\n").toList ++
            marksFrom (6 + (body ++ "\n").toList.length) "$$;".toList) := by
        rw [dollarMarks, toList_delimited, marksFrom_append 0 _ opened, marksFrom_append _ _ ended]
        rfl
    _ = 3 :: (marksFrom 6 (body ++ "\n").toList ++ [(delimited body).length - 3]) := by
        rw [last]
        rfl

theorem isIntact_delimited_iff (body : String) :
    IsIntact (delimited body) ↔ hasMark body.toList = false := by
  have plain : hasMark (body ++ "\n").toList = hasMark body.toList := by
    rw [String.toList_append]
    exact hasMark_append_plain _ (by decide)
  rw [IsIntact, dollarMarks_delimited, ← plain, ← marksFrom_eq_nil_iff 6]
  simp

end TableSchema.Sql
