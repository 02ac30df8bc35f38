import Mathlib.Data.List.Forall2
import TableSchema.Proofs.Text.Recasing
import TableSchema.Proofs.Verification.BlockShape
import TableSchema.Proofs.Verification.InsertTarget
import TableSchema.Proofs.Verification.Qualifier

/-!
The target list of an insert. A statement is changed only where it begins with a head that ends in a
parenthesis and this is closed again, and then nowhere but between the two. As the head stays what it
is, a second pass finds the same list and nothing to take off it.
-/

namespace TableSchema.Verification

open Text

/-- The text is the keyword, each letter of it in one of its forms. -/
def Spells (keyword : String) (word : List Char) : Prop :=
  List.Forall₂ (fun letter c => isFormOf letter c = true) keyword.toList word

/-- The text is `INSERT`, blanks, `INTO`, blanks, a table of one character or more, and the
parenthesis behind it. -/
def IsListHead (head : List Char) : Prop :=
  ∃ insert gap into space table, head = insert ++ (gap ++ (into ++ (space ++ (table ++ ['('])))) ∧
    Spells "INSERT" insert ∧ (gap ≠ [] ∧ IsBlankText gap) ∧ Spells "INTO" into ∧
    (space ≠ [] ∧ IsBlankText space) ∧ table ≠ [] ∧ '(' ∉ table

/-- The statement is taken apart into a head, the list behind it up to the first parenthesis that
closes, and all the rest. -/
structure IsInsert (cs head list tail : List Char) : Prop where
  split : cs = head ++ (list ++ ')' :: tail)
  head : IsListHead head
  closed : ')' ∉ list

section Head

variable {cs rest head : List Char}

theorem dropKeyword?_eq_some_iff {keyword : List Char} :
    dropKeyword? keyword cs = some rest ↔
      ∃ word, List.Forall₂ (fun letter c => isFormOf letter c = true) keyword word ∧
        cs = word ++ rest := by
  induction keyword generalizing cs with
  | nil =>
    simp only [dropKeyword?, List.forall₂_nil_left_iff, exists_eq_left, List.nil_append,
      Option.some.injEq]
  | cons letter keyword ih =>
    cases cs with
    | nil =>
      refine iff_of_false (by simp [dropKeyword?]) ?_
      rintro ⟨word, spelled, empty⟩
      cases spelled
      simp at empty
    | cons c cs =>
      rw [dropKeyword?, Option.ite_none_right_eq_some, ih]
      constructor
      · rintro ⟨form, word, spelled, rfl⟩
        exact ⟨c :: word, .cons form spelled, rfl⟩
      · rintro ⟨word, spelled, split⟩
        cases spelled with
        | cons form spelled =>
          obtain ⟨rfl, rfl⟩ := List.cons.inj split
          exact ⟨form, _, spelled, rfl⟩

theorem isBlank_of_isFormOf_I {c : Char} (h : isFormOf 'I' c = true) : isBlank c = false := by
  simp only [isFormOf, Bool.or_eq_true, Bool.and_eq_true, decide_eq_true_eq] at h
  rcases h with ((upper | ⟨-, rfl | rfl⟩) | ⟨other, -⟩) | ⟨other, -⟩
  · rw [← isBlank_toUpper, upper]
    decide
  · decide +kernel
  · decide +kernel
  · exact absurd other (by decide)
  · exact absurd other (by decide)

theorem guard_table_eq_some_iff :
    (do
      let table := cs.takeWhile (· != '(')
      guard (table.head?.any isBlank && 2 ≤ table.length)
      dropChars? ['('] (cs.dropWhile (· != '('))) = some rest ↔
      ∃ space table, (space ≠ [] ∧ IsBlankText space) ∧ table ≠ [] ∧ '(' ∉ table ∧
        cs = space ++ (table ++ '(' :: rest) := by
  constructor
  · intro found
    obtain ⟨⟨⟩, guarded, dropped⟩ := Option.bind_eq_some_iff.1 found
    have whole := List.takeWhile_append_dropWhile (p := (· != '(')) (l := cs)
    rw [← List.isPrefixOf?_eq_some_iff_append_eq.1 dropped] at whole
    have plain : '(' ∉ cs.takeWhile (· != '(') := fun mem => by
      simpa using List.mem_takeWhile_imp mem
    obtain ⟨shape, -⟩ := Option.ite_none_right_eq_some.1 guarded
    rw [Bool.and_eq_true, decide_eq_true_eq] at shape
    generalize cs.takeWhile (· != '(') = front at whole plain shape
    match front, shape with
    | blank :: c :: table, ⟨first, _⟩ =>
      have blanks : IsBlankText [blank] := by simpa [IsBlankText] using first
      exact ⟨[blank], c :: table, ⟨by simp, blanks⟩, by simp,
        fun mem => plain (List.mem_cons_of_mem blank mem), whole.symm⟩
  · rintro ⟨space, table, ⟨nonempty, blanks⟩, named, plain, rfl⟩
    have absent : '(' ∉ space ++ table :=
      List.not_mem_append (blanks.not_mem (by decide)) plain
    obtain ⟨taken, left⟩ := takeWhile_bne absent rest
    rw [← List.append_assoc, taken, left]
    refine Option.bind_eq_some_iff.2 ⟨(), if_pos ?_, rfl⟩
    obtain ⟨blank, space, rfl⟩ := List.exists_cons_of_ne_nil nonempty
    have first : isBlank blank = true := blanks blank List.mem_cons_self
    have more : 1 ≤ table.length := List.length_pos_iff.2 named
    simp only [List.cons_append, List.head?_cons, Option.any_some, first, List.length_cons,
      List.length_append, Bool.true_and, decide_eq_true_eq]
    omega

theorem columnList?_eq_some_iff :
    columnList? cs = some rest ↔ ∃ head, IsListHead head ∧ cs = head ++ rest := by
  constructor
  · intro found
    obtain ⟨afterInsert, insertDropped, blanks⟩ := Option.bind_eq_some_iff.1 found
    obtain ⟨afterGap, gapDropped, target⟩ := Option.bind_eq_some_iff.1 blanks
    obtain ⟨afterInto, intoDropped, opened⟩ := Option.bind_eq_some_iff.1 target
    obtain ⟨insert, spelledInsert, split⟩ := dropKeyword?_eq_some_iff.1 insertDropped
    obtain ⟨gap, nonempty, blank, rfl⟩ := eq_append_of_dropBlanks? gapDropped
    obtain ⟨into, spelledInto, rfl⟩ := dropKeyword?_eq_some_iff.1 intoDropped
    obtain ⟨space, table, spaced, named, plain, rfl⟩ := guard_table_eq_some_iff.1 opened
    exact ⟨_, ⟨insert, gap, into, space, table, rfl, spelledInsert, ⟨nonempty, blank⟩,
      spelledInto, spaced, named, plain⟩, by simp [split]⟩
  · rintro ⟨head, ⟨insert, gap, into, space, table, rfl, spelledInsert, ⟨nonempty, blank⟩,
      spelledInto, spaced, named, plain⟩, rfl⟩
    have intoDropped : dropKeyword? "INTO".toList (into ++ (space ++ (table ++ '(' :: rest))) =
        some (space ++ (table ++ '(' :: rest)) :=
      dropKeyword?_eq_some_iff.2 ⟨into, spelledInto, rfl⟩
    -- the second keyword begins with no blank, so the blanks before it end with the gap
    have gapDropped : dropBlanks? (gap ++ (into ++ (space ++ (table ++ '(' :: rest)))) =
        some (into ++ (space ++ (table ++ '(' :: rest))) := by
      cases spelledInto with
      | cons form _ => exact dropBlanks?_append nonempty blank (isBlank_of_isFormOf_I form) _
    simp only [List.append_assoc, List.singleton_append]
    refine Option.bind_eq_some_iff.2 ⟨_, dropKeyword?_eq_some_iff.2 ⟨insert, spelledInsert, rfl⟩, ?_⟩
    refine Option.bind_eq_some_iff.2 ⟨_, gapDropped, ?_⟩
    exact Option.bind_eq_some_iff.2 ⟨_, intoDropped,
      guard_table_eq_some_iff.2 ⟨space, table, spaced, named, plain, rfl⟩⟩

end Head

section Whole

variable {cs head list tail head' list' tail' : List Char}

theorem IsInsert.unique (h : IsInsert cs head list tail) (h' : IsInsert cs head' list' tail') :
    head = head' ∧ list = list' ∧ tail = tail' := by
  have found : columnList? cs = some (list ++ ')' :: tail) :=
    columnList?_eq_some_iff.2 ⟨head, h.head, h.split⟩
  rw [columnList?_eq_some_iff.2 ⟨head', h'.head, h'.split⟩] at found
  have behind : list' ++ ')' :: tail' = list ++ ')' :: tail := Option.some.inj found
  have whole : head ++ (list ++ ')' :: tail) = head' ++ (list ++ ')' :: tail) := by
    rw [← h.split, h'.split, behind]
  obtain rfl := List.append_cancel_right whole
  obtain ⟨taken, left⟩ := takeWhile_bne h.closed tail
  obtain ⟨taken', left'⟩ := takeWhile_bne h'.closed tail'
  rw [behind, taken] at taken'
  rw [behind, left] at left'
  exact ⟨rfl, taken', (List.cons.inj left').2⟩

theorem unqualifyChars_of_isInsert (h : IsInsert cs head list tail) :
    unqualifyChars cs = head ++ (dropQualifiers list ++ ')' :: tail) := by
  obtain ⟨rfl, opens, closed⟩ := h
  have found : columnList? (head ++ (list ++ ')' :: tail)) = some (list ++ ')' :: tail) :=
    columnList?_eq_some_iff.2 ⟨head, opens, rfl⟩
  obtain ⟨taken, left⟩ := takeWhile_bne closed tail
  have before : (head ++ (list ++ ')' :: tail)).take
      ((head ++ (list ++ ')' :: tail)).length - (list ++ ')' :: tail).length) = head := by
    rw [List.length_append, Nat.add_sub_cancel, List.take_left]
  rw [unqualifyChars, found]
  simp only [taken, left, before, List.isEmpty_cons, Bool.false_eq_true, if_false,
    List.append_assoc]

theorem unqualifyChars_of_not_isInsert (h : ¬ ∃ head list tail, IsInsert cs head list tail) :
    unqualifyChars cs = cs := by
  unfold unqualifyChars
  cases found : columnList? cs with
  | none => rfl
  | some rest =>
    obtain ⟨head, opens, split⟩ := columnList?_eq_some_iff.1 found
    have whole := (List.takeWhile_append_dropWhile (p := (· != ')')) (l := rest)).symm
    have closed : ')' ∉ rest.takeWhile (· != ')') := fun mem => by
      simpa using List.mem_takeWhile_imp mem
    cases left : rest.dropWhile (· != ')') with
    | nil => simp [left]
    | cons c tail =>
      obtain rfl : c = ')' := by
        have stop := List.head?_dropWhile_not (· != ')') rest
        simpa [left] using stop
      rw [left] at whole
      exact absurd ⟨head, _, tail, split.trans (congrArg (head ++ ·) whole), opens, closed⟩ h

theorem IsInsert.unqualifyChars (h : IsInsert cs head list tail) :
    IsInsert (unqualifyChars cs) head (dropQualifiers list) tail where
  split := unqualifyChars_of_isInsert h
  head := h.head
  closed := fun mem => h.closed ((retains_dropQualifiers list).subset mem)

theorem unqualifyChars_unqualifyChars (cs : List Char) :
    unqualifyChars (unqualifyChars cs) = unqualifyChars cs := by
  by_cases h : ∃ head list tail, IsInsert cs head list tail
  · obtain ⟨head, list, tail, taken⟩ := h
    rw [unqualifyChars_of_isInsert taken.unqualifyChars,
      dropQualifiers_eq_self (not_inQualifier_dropQualifiers list), ← unqualifyChars_of_isInsert taken]
  · rw [unqualifyChars_of_not_isInsert h, unqualifyChars_of_not_isInsert h]

theorem toList_unqualify (sql : String) : (unqualify sql).toList = unqualifyChars sql.toList :=
  String.toList_ofList

/-- A statement without a target list is left alone. Of any other one the head and what comes behind
the list are kept, and the list without its qualifiers, of which none is left. A second time nothing
is changed. -/
theorem unqualify_cleans (sql : String) :
    ((¬ ∃ head list tail, IsInsert sql.toList head list tail) ∧ unqualify sql = sql ∨
      ∃ head list cleaned tail, IsInsert sql.toList head list tail ∧
        IsInsert (unqualify sql).toList head cleaned tail ∧
        Retains (fun i => ¬ InQualifier list i) list cleaned ∧
        ∀ i, ¬ InQualifier cleaned i) ∧
    unqualify (unqualify sql) = unqualify sql := by
  constructor
  · by_cases h : ∃ head list tail, IsInsert sql.toList head list tail
    · obtain ⟨head, list, tail, taken⟩ := h
      have kept := taken.unqualifyChars
      rw [← toList_unqualify] at kept
      exact .inr ⟨head, list, dropQualifiers list, tail, taken, kept, retains_dropQualifiers list,
        not_inQualifier_dropQualifiers list⟩
    · refine .inl ⟨h, String.toList_inj.1 ?_⟩
      rw [toList_unqualify, unqualifyChars_of_not_isInsert h]
  · rw [← String.toList_inj, toList_unqualify, toList_unqualify, unqualifyChars_unqualifyChars]

def respelledInsert (list : String) : String :=
  "ınſert\nINTO t_1 (" ++ list ++ ") SELECT (g.h)"

def chainedNames : String :=
  "a.B_2.c, éa.d, 1a.e, a..f, _Z9.g, a_é.h, é.a.z, x"

def unchainedNames : String :=
  "c, éa.d, 1a.e, .f, g, a_é.h, é.z, x"

theorem unqualify_cleans_of_chainedNames :
    unqualify (respelledInsert chainedNames) = respelledInsert unchainedNames ∧
    Retains (fun i => ¬ InQualifier chainedNames.toList i) chainedNames.toList
      unchainedNames.toList ∧
    ∀ i, ¬ InQualifier unchainedNames.toList i := by
  have shown : unqualify (respelledInsert chainedNames) = respelledInsert unchainedNames := by
    decide +kernel
  have opens : IsListHead "ınſert\nINTO t_1 (".toList :=
    ⟨"ınſert".toList, ['\n'], "INTO".toList, [' '], "t_1 ".toList, by decide,
      by simp [Spells, isFormOf], ⟨by decide, by decide +kernel⟩, by simp [Spells, isFormOf],
      ⟨by decide, by decide +kernel⟩, by decide, by decide⟩
  have given : IsInsert (respelledInsert chainedNames).toList "ınſert\nINTO t_1 (".toList
      chainedNames.toList " SELECT (g.h)".toList := ⟨by decide, opens, by decide⟩
  have left : IsInsert (respelledInsert unchainedNames).toList "ınſert\nINTO t_1 (".toList
      unchainedNames.toList " SELECT (g.h)".toList := ⟨by decide, opens, by decide⟩
  obtain ⟨⟨none, -⟩ | ⟨head, list, cleaned, tail, taken, kept, retained, clean⟩, -⟩ :=
    unqualify_cleans (respelledInsert chainedNames)
  · exact absurd ⟨_, _, _, given⟩ none
  · rw [shown] at kept
    obtain ⟨-, rfl, -⟩ := taken.unique given
    obtain ⟨-, rfl, -⟩ := kept.unique left
    exact ⟨shown, retained, clean⟩

end Whole

end TableSchema.Verification
