import TableSchema.Proofs.Verification.LiteralMasking

/-!
Where a placeholder opens. Masking turns the dollar signs at these places into colons and leaves
every other character where it is, the names are read off behind the same places, and no rewritten
place makes, hides or moves another one.
-/

namespace TableSchema.Verification

open Text

/-- The character before the place is a dollar sign; the flag says so of what the text follows. -/
def dollarBefore (afterDollar : Bool) (cs : List Char) : Nat → Bool
  | 0 => afterDollar
  | i + 1 => decide (cs[i]? = some '$')

/-- At the place stands a dollar sign that does not follow another one and comes before a letter or
an underscore. -/
def OpensFrom (afterDollar : Bool) (cs : List Char) (i : Nat) : Prop :=
  cs[i]? = some '$' ∧ dollarBefore afterDollar cs i = false ∧
    cs[i + 1]?.any isIdentifierStart = true

instance (afterDollar : Bool) (cs : List Char) (i : Nat) :
    Decidable (OpensFrom afterDollar cs i) :=
  inferInstanceAs (Decidable (_ ∧ _ ∧ _))

abbrev OpensAt (cs : List Char) (i : Nat) : Prop :=
  OpensFrom false cs i

def openings (afterDollar : Bool) (cs : List Char) : List Nat :=
  (List.range cs.length).filter (OpensFrom afterDollar cs ·)

def runBehind (cs : List Char) (i : Nat) : List Char :=
  (cs.drop (i + 1)).takeWhile isIdentifierChar

def MarkAt (cs : List Char) (i : Nat) : Prop :=
  cs[i]? = some '$' ∧ cs[i + 1]? = some '$'

instance (cs : List Char) (i : Nat) : Decidable (MarkAt cs i) :=
  inferInstanceAs (Decidable (_ ∧ _))

section Scan

variable {afterDollar : Bool} {cs : List Char} {i : Nat}

theorem opensFrom_zero_iff (afterDollar : Bool) (c : Char) (cs : List Char) :
    OpensFrom afterDollar (c :: cs) 0 ↔ opensPlaceholder afterDollar c cs = true := by
  cases cs <;> simp [OpensFrom, opensPlaceholder, dollarBefore, and_assoc]

theorem opensFrom_succ_iff (afterDollar : Bool) (c : Char) (cs : List Char) (i : Nat) :
    OpensFrom afterDollar (c :: cs) (i + 1) ↔ OpensFrom (c = '$') cs i := by
  cases i <;> simp [OpensFrom, dollarBefore]

theorem openings_cons (afterDollar : Bool) (c : Char) (cs : List Char) :
    openings afterDollar (c :: cs) =
      (if opensPlaceholder afterDollar c cs then [0] else []) ++
        (openings (c = '$') cs).map (· + 1) := by
  have later : ((fun i => decide (OpensFrom afterDollar (c :: cs) i)) ∘ Nat.succ) =
      fun i => decide (OpensFrom (c = '$') cs i) :=
    funext fun i => decide_eq_decide.2 (opensFrom_succ_iff afterDollar c cs i)
  have first := opensFrom_zero_iff afterDollar c cs
  rw [openings, List.length_cons, List.range_succ_eq_map, List.filter_cons, List.filter_map, later]
  cases opens : opensPlaceholder afterDollar c cs <;> rw [opens] at first <;> simp [first, openings]

theorem getElem?_maskFrom (afterDollar : Bool) (cs : List Char) (i : Nat) :
    (maskFrom afterDollar cs)[i]? =
      if OpensFrom afterDollar cs i then some ':' else cs[i]? := by
  induction cs generalizing afterDollar i with
  | nil => simp [maskFrom, OpensFrom]
  | cons c cs ih =>
    cases i with
    | zero =>
      simp only [maskFrom, List.getElem?_cons_zero, opensFrom_zero_iff]
      split <;> rfl
    | succ i => simp only [maskFrom, List.getElem?_cons_succ, ih, opensFrom_succ_iff]

theorem placeholdersFrom_eq_map (afterDollar : Bool) (cs : List Char) :
    placeholdersFrom afterDollar cs = (openings afterDollar cs).map (runBehind cs) := by
  induction cs generalizing afterDollar with
  | nil => rfl
  | cons c cs ih =>
    have behind : runBehind (c :: cs) ∘ (· + 1) = runBehind cs := rfl
    rw [placeholdersFrom, openings_cons, List.map_append, List.map_map, behind, ih]
    cases opensPlaceholder afterDollar c cs <;> rfl

theorem OpensFrom.alone (h : OpensFrom afterDollar cs i) : cs[i + 1]? ≠ some '$' := by
  intro dollar
  have start := h.2.2
  rw [dollar] at start
  exact absurd start (by decide)

theorem getElem?_maskFrom_eq_dollar_iff :
    (maskFrom afterDollar cs)[i]? = some '$' ↔
      cs[i]? = some '$' ∧ ¬ OpensFrom afterDollar cs i := by
  rw [getElem?_maskFrom]
  split
  next opens => simp [opens]
  next closed => simp [closed]

theorem markAt_maskFrom_iff : MarkAt (maskFrom afterDollar cs) i ↔ MarkAt cs i := by
  rw [MarkAt, MarkAt, getElem?_maskFrom_eq_dollar_iff, getElem?_maskFrom_eq_dollar_iff]
  constructor
  · rintro ⟨⟨first, -⟩, second, -⟩
    exact ⟨first, second⟩
  · rintro ⟨first, second⟩
    refine ⟨⟨first, fun opens => opens.alone second⟩, second, fun opens => ?_⟩
    have follows := opens.2.1
    rw [dollarBefore, first] at follows
    exact absurd follows (by decide)

theorem not_opensFrom_maskFrom : ¬ OpensFrom afterDollar (maskFrom afterDollar cs) i := by
  rintro ⟨dollar, free, start⟩
  obtain ⟨dollar, closed⟩ := getElem?_maskFrom_eq_dollar_iff.1 dollar
  refine closed ⟨dollar, ?_, ?_⟩
  · cases i with
    | zero => exact free
    | succ i =>
      refine decide_eq_false fun before => of_decide_eq_false free ?_
      exact getElem?_maskFrom_eq_dollar_iff.2 ⟨before, fun opens => opens.alone dollar⟩
  · rw [getElem?_maskFrom] at start
    split at start
    next => exact absurd start (by decide)
    next => exact start

end Scan

theorem toList_mask (sql : String) : (mask sql).toList = maskFrom false sql.toList :=
  String.toList_ofList

theorem placeholders_mask (sql : String) : placeholders (mask sql) = [] := by
  have none : openings false (maskFrom false sql.toList) = [] :=
    List.filter_eq_nil_iff.2 fun i _ => by simp [not_opensFrom_maskFrom]
  rw [placeholders, toList_mask, placeholdersFrom_eq_map, none]
  rfl

/-- Masking puts a colon at the places where a placeholder opens, tells the run behind each of them
in order, and changes nothing else: no placeholder is left, and every pair of dollar signs is still
there. -/
theorem mask_openings (sql : String) :
    (mask sql).length = sql.length ∧
    (∀ i, (mask sql).toList[i]? =
      if OpensAt sql.toList i then some ':' else sql.toList[i]?) ∧
    placeholders sql =
      (openings false sql.toList).map (fun i => String.ofList (runBehind sql.toList i)) ∧
    (∀ i, ¬ OpensAt (mask sql).toList i) ∧
    placeholders (mask sql) = [] ∧
    mask (mask sql) = mask sql ∧
    ∀ i, MarkAt (mask sql).toList i ↔ MarkAt sql.toList i := by
  have none := placeholders_mask sql
  refine ⟨?_, fun i => ?_, ?_, fun i => ?_, none, mask_eq_self none, fun i => ?_⟩
  · rw [← String.length_toList, ← String.length_toList, toList_mask, length_maskFrom]
  · rw [toList_mask, getElem?_maskFrom]
  · rw [placeholders, placeholdersFrom_eq_map, List.map_map]
    rfl
  · rw [toList_mask]
    exact not_opensFrom_maskFrom
  · rw [toList_mask]
    exact markAt_maskFrom_iff

def adjacentMarks : String :=
  "($a$Z_9, $_é, $A0z/ $$b, $1, $é, $@x, $[y) $$$z $"

theorem mask_openings_of_adjacentMarks :
    openings false adjacentMarks.toList = [1, 3, 9, 14] ∧
    mask adjacentMarks = "(:a:Z_9, :_é, :A0z/ $$b, $1, $é, $@x, $[y) $$$z $" ∧
    placeholders adjacentMarks = ["a", "Z_9", "_", "A0z"] ∧
    mask (mask adjacentMarks) = mask adjacentMarks ∧
    ∀ i ∈ [20, 43, 44], MarkAt (mask adjacentMarks).toList i := by
  obtain ⟨-, -, names, -, -, again, marks⟩ := mask_openings adjacentMarks
  have opened : openings false adjacentMarks.toList = [1, 3, 9, 14] := by decide
  refine ⟨opened, by decide, ?_, again, fun i mem => (marks i).2 ?_⟩
  · rw [names, opened]
    decide
  · revert i
    decide

end TableSchema.Verification
