import TableSchema.Proofs.Text.Identifier
import TableSchema.Verification.InsertTarget

/-!
Target columns of an insert. In a list of columns that are each qualified by an identifier every
qualifier is taken off, and nothing of the statement around the list is touched.
-/

namespace TableSchema.Verification

open Text

theorem not_mem_intercalate {c : Char} {sep : String} (hs : c ∉ sep.toList) {l : List String}
    (h : ∀ s ∈ l, c ∉ s.toList) : c ∉ (sep.intercalate l).toList := by
  induction l with
  | nil => exact List.not_mem_nil
  | cons s l ih =>
    have others := ih fun t ht => h t (List.mem_cons_of_mem s ht)
    cases l with
    | nil => exact h s List.mem_cons_self
    | cons t l =>
      rw [String.intercalate_cons_cons, String.toList_append, String.toList_append]
      simp only [List.mem_append, not_or]
      exact ⟨⟨h s List.mem_cons_self, hs⟩, others⟩

section Qualifier

variable {name word : List Char}

theorem dropQualifiersFrom_identifier (word : List Char) (h : isIdentifier name = true)
    (rest : List Char) :
    dropQualifiersFrom word (name ++ rest) = dropQualifiersFrom (word ++ name) rest := by
  have chars : ∀ c ∈ name, isWordChar c = true := fun c hc =>
    isWordChar_of_identifierChar (identifierChar_of_mem h hc)
  clear h
  induction name generalizing word with
  | nil => rw [List.nil_append, List.append_nil]
  | cons c name ih =>
    rw [List.cons_append, dropQualifiersFrom, if_pos (chars c List.mem_cons_self),
      ih (word ++ [c]) fun x hx => chars x (List.mem_cons_of_mem c hx), List.append_assoc,
      List.singleton_append]

theorem dropQualifiersFrom_qualified {qualifier : List Char} (hq : isIdentifier qualifier = true)
    (hn : isIdentifier name = true) (rest : List Char) :
    dropQualifiersFrom [] (qualifier ++ '.' :: (name ++ rest)) = dropQualifiersFrom name rest := by
  have point : isWordChar '.' = false := by decide
  rw [dropQualifiersFrom_identifier [] hq, List.nil_append, dropQualifiersFrom,
    if_neg (by simp [point]), if_pos (by simp [hq]), dropQualifiersFrom_identifier [] hn,
    List.nil_append]

theorem dropQualifiersFrom_comma (word rest : List Char) :
    dropQualifiersFrom word (", ".toList ++ rest) =
      word ++ (", ".toList ++ dropQualifiersFrom [] rest) := by
  have comma : isWordChar ',' = false := by decide
  have blank : isWordChar ' ' = false := by decide
  have chars : ", ".toList = [',', ' '] := rfl
  simp [chars, dropQualifiersFrom, comma, blank]

theorem dropQualifiers_intercalate {qualifier : List Char} (hq : isIdentifier qualifier = true)
    {reference : String → String}
    (hr : ∀ n, (reference n).toList = qualifier ++ '.' :: n.toList) {names : List String}
    (hn : ∀ n ∈ names, IsIdentifier n) :
    dropQualifiers (", ".intercalate (names.map reference)).toList =
      (", ".intercalate names).toList := by
  have qualified (n : String) (identifier : IsIdentifier n) (rest : List Char) :
      dropQualifiersFrom [] ((reference n).toList ++ rest) = dropQualifiersFrom n.toList rest := by
    rw [hr, List.append_assoc, List.cons_append, dropQualifiersFrom_qualified hq identifier]
  rw [dropQualifiers]
  induction names with
  | nil => rfl
  | cons n names ih =>
    have first := hn n List.mem_cons_self
    have others := ih fun x hx => hn x (List.mem_cons_of_mem n hx)
    cases names with
    | nil =>
      have alone := qualified n first []
      rwa [List.append_nil] at alone
    | cons next names =>
      rw [List.map_cons, List.map_cons, String.intercalate_cons_cons, String.intercalate_cons_cons,
        String.append_assoc, String.append_assoc, String.toList_append, String.toList_append,
        String.toList_append, String.toList_append, qualified n first, dropQualifiersFrom_comma,
        ← List.map_cons, others]

end Qualifier

section Target

variable {table qualifier list : String}

theorem unqualify_eq_self {sql : String} (h : dropKeyword? "INSERT".toList sql.toList = none) :
    unqualify sql = sql := by
  have none : columnList? sql.toList = none := by
    rw [columnList?, h]
    rfl
  rw [unqualify, unqualifyChars, none, String.ofList_toList]

def insertHead (table qualifier : String) : String :=
  "INSERT INTO " ++ table ++ " AS " ++ qualifier ++ " ("

def insertTarget (table qualifier : String) : List Char :=
  " ".toList ++ (table.toList ++ (" AS ".toList ++ (qualifier.toList ++ " ".toList)))

theorem toList_insertHead (table qualifier : String) :
    (insertHead table qualifier).toList =
      "INSERT".toList ++ (' ' :: ("INTO".toList ++ (insertTarget table qualifier ++ ['(']))) := by
  have head : "INSERT INTO ".toList = "INSERT".toList ++ (' ' :: ("INTO".toList ++ " ".toList)) :=
    rfl
  have bracket : " (".toList = " ".toList ++ ['('] := rfl
  unfold insertHead insertTarget
  simp only [head, bracket, String.toList_append, List.append_assoc, List.cons_append]

theorem bracket_not_mem_insertTarget (ht : IsIdentifier table) (hq : IsIdentifier qualifier) :
    '(' ∉ insertTarget table qualifier := by
  have bracket : isIdentifierChar '(' = false := by decide
  unfold insertTarget
  simp only [List.mem_append, not_or]
  exact ⟨by decide, not_mem_of_isIdentifier ht bracket, by decide,
    not_mem_of_isIdentifier hq bracket, by decide⟩

theorem takeWhile_bne {c : Char} {cs : List Char} (absent : c ∉ cs) (rest : List Char) :
    (cs ++ c :: rest).takeWhile (· != c) = cs ∧
      (cs ++ c :: rest).dropWhile (· != c) = c :: rest := by
  have all : ∀ x ∈ cs, (x != c) = true := by
    intro x hx
    rw [bne_iff_ne]
    rintro rfl
    exact absent hx
  rw [List.takeWhile_append_of_pos all, List.dropWhile_append_of_pos all]
  simp

theorem columnList?_insert (ht : IsIdentifier table) (hq : IsIdentifier qualifier)
    (rest : List Char) :
    columnList? ((insertHead table qualifier).toList ++ rest) = some rest := by
  have chars : (insertHead table qualifier).toList ++ rest =
      "INSERT".toList ++
        (' ' :: ("INTO".toList ++ (insertTarget table qualifier ++ '(' :: rest))) := by
    rw [toList_insertHead]
    simp only [List.append_assoc, List.cons_append, List.nil_append]
  have long : ((insertTarget table qualifier).head?.any isBlank &&
      decide (2 ≤ (insertTarget table qualifier).length)) = true := by
    have one : " ".toList.length = 1 := rfl
    rw [Bool.and_eq_true, decide_eq_true_eq]
    refine ⟨rfl, ?_⟩
    unfold insertTarget
    simp only [List.length_append]
    omega
  have insert (cs : List Char) : dropKeyword? "INSERT".toList ("INSERT".toList ++ cs) = some cs :=
    rfl
  have into (cs : List Char) : dropKeyword? "INTO".toList ("INTO".toList ++ cs) = some cs := rfl
  have blank (cs : List Char) : dropBlanks? (' ' :: ("INTO".toList ++ cs)) =
      some ("INTO".toList ++ cs) := rfl
  obtain ⟨taken, left⟩ := takeWhile_bne (bracket_not_mem_insertTarget ht hq) rest
  rw [columnList?, chars]
  refine Option.bind_eq_some_iff.2 ⟨_, insert _, ?_⟩
  refine Option.bind_eq_some_iff.2 ⟨_, blank _, ?_⟩
  refine Option.bind_eq_some_iff.2 ⟨_, into _, ?_⟩
  rw [taken, left]
  exact Option.bind_eq_some_iff.2 ⟨(), if_pos long, rfl⟩

theorem unqualify_insert (ht : IsIdentifier table) (hq : IsIdentifier qualifier)
    (closed : ')' ∉ list.toList) (tail : String) :
    unqualify (insertHead table qualifier ++ (list ++ (")" ++ tail))) =
      insertHead table qualifier ++
        (String.ofList (dropQualifiers list.toList) ++ (")" ++ tail)) := by
  have chars : (insertHead table qualifier ++ (list ++ (")" ++ tail))).toList =
      (insertHead table qualifier).toList ++ (list.toList ++ ')' :: tail.toList) := by
    simp only [String.toList_append]
    rfl
  obtain ⟨taken, left⟩ := takeWhile_bne closed tail.toList
  have found := columnList?_insert ht hq (list.toList ++ ')' :: tail.toList)
  have before : ((insertHead table qualifier).toList ++ (list.toList ++ ')' :: tail.toList)).take
      (((insertHead table qualifier).toList ++ (list.toList ++ ')' :: tail.toList)).length -
        (list.toList ++ ')' :: tail.toList).length) = (insertHead table qualifier).toList := by
    rw [List.length_append, Nat.add_sub_cancel, List.take_left]
  rw [unqualify, chars, unqualifyChars, found]
  simp only [taken, left, before]
  rw [← String.toList_inj]
  simp

end Target

end TableSchema.Verification
