import TableSchema.Proofs.Sql.Constant
import TableSchema.Proofs.Text.Numeral
import TableSchema.Text.Keyword

/-!
Rendered values read back. A constant tells its value and the kind of it, and the constants of a
list are found by the separators that stand outside of literals, whatever the literals hold.
-/

namespace TableSchema

/-- A value that its literal holds without loss: a text, an integer or a truth value. -/
def Value.IsExact : Value → Prop
  | .text _ | .int _ | .bool _ => True
  | _ => False

namespace Sql

section Constants

variable {s t : String} {v w : Value}

/-- The value of a constant: the text of a literal, the truth value that a word is for, or the
integer that a number without fraction and exponent is. -/
def constant? (s : String) : Option Value :=
  if (read s).skeleton = ['\'', '\''] then (read s).contents.head?.map Value.text
  else if s ∈ truthWords true then some (.bool true)
  else if s ∈ truthWords false then some (.bool false)
  else (Text.integer? s.toList).map Value.int

theorem constant?_quote (s : String) : constant? (Literal.quote s) = some (.text s) := by
  rw [constant?, read_quote, if_pos rfl]
  rfl

theorem constant?_eq_text_iff : constant? s = some (.text t) ↔ s = Literal.quote t := by
  refine ⟨fun h => ?_, fun h => h ▸ constant?_quote t⟩
  rw [constant?] at h
  split at h
  next shown =>
    obtain ⟨text, literal, contents⟩ := exists_quote_of_skeleton shown
    rw [contents] at h
    obtain rfl := Value.text.inj (Option.some.inj h)
    exact literal
  next =>
    split_ifs at h <;> simp at h

theorem constant?_truthWord : ∀ b, ∀ word ∈ truthWords b, constant? word = some (.bool b) := by
  have letters : ∀ b, ∀ word ∈ truthWords b, '\'' ∉ word.toList ∧ word.toList ≠ ['\'', '\''] ∧
      (b = false → word ∉ truthWords true) := by decide
  intro b word mem
  obtain ⟨free, bare, other⟩ := letters b word mem
  rw [constant?, read_plain free, if_neg bare]
  cases b with
  | true => exact if_pos mem
  | false => rw [if_neg (other rfl), if_pos mem]

theorem constant?_intRepr (n : Int) : constant? n.repr = some (.int n) := by
  have free : '\'' ∉ n.repr.toList := fun quote =>
    absurd (isNumeralChar_of_mem_intRepr quote) (by decide)
  have bare : n.repr.toList ≠ ['\'', '\''] := fun quotes => free (by simp [quotes])
  have other (b : Bool) : n.repr ∉ truthWords b := fun word =>
    not_isNumber_of_truthWords word (Text.isNumber_intRepr n)
  rw [constant?, read_plain free, if_neg bare, if_neg (other true), if_neg (other false),
    Text.integer?_intRepr]
  rfl

theorem constant?_rendered {render : Value → String} (texts : ∀ s, render (.text s) = Literal.quote s)
    (bools : ∀ b, render (.bool b) ∈ truthWords b) (ints : ∀ n, render (.int n) = n.repr)
    (h : v.IsExact) : constant? (render v) = some v := by
  cases v with
  | text s => rw [texts, constant?_quote]
  | int n => rw [ints, constant?_intRepr]
  | bool b => exact constant?_truthWord b _ (bools b)
  | _ => exact h.elim

theorem constant?_ofFilter (h : v.IsExact) : constant? (Literal.ofFilter v) = some v :=
  constant?_rendered (fun _ => rfl) (by decide) (fun _ => rfl) h

theorem constant?_ofDefault (h : v.IsExact) : constant? (Literal.ofDefault v) = some v :=
  constant?_rendered (fun _ => rfl) (by decide) (fun _ => rfl) h

theorem eq_of_constant? {render : Value → String} (hv : constant? (render v) = some v)
    (hw : constant? (render w) = some w) (same : render v = render w) : v = w := by
  rw [same, hw] at hv
  exact (Option.some.inj hv).symm

end Constants

section Cutting

variable {mark cs : List Char} {first : Char}

/-- Cuts a text before the first mark that stands outside of literals; the flag says whether the
text begins inside of one. -/
def cutAt (mark : List Char) (inside : Bool) : List Char → List Char × List Char
  | [] => ([], [])
  | c :: cs =>
    if !inside && mark.isPrefixOf (c :: cs) then ([], c :: cs)
    else
      let (before, rest) := cutAt mark (if c = '\'' then !inside else inside) cs
      (c :: before, rest)

theorem cutAt_cons_of_ne (c : Char) (h : first ≠ c) (inside : Bool) (cs : List Char) :
    cutAt (first :: mark) inside (c :: cs) =
      (c :: (cutAt (first :: mark) (if c = '\'' then !inside else inside) cs).1,
        (cutAt (first :: mark) (if c = '\'' then !inside else inside) cs).2) := by
  rw [cutAt, if_neg]
  simp [List.isPrefixOf, h]

theorem cutAt_mark (mark rest : List Char) (nonempty : mark ≠ []) :
    cutAt mark false (mark ++ rest) = ([], mark ++ rest) := by
  cases mark with
  | nil => exact absurd rfl nonempty
  | cons first mark =>
    rw [List.cons_append, cutAt, if_pos]
    simp

/-- The text is passed over: it opens no literal that it does not close, and holds no mark outside
of literals. -/
def Passed (mark cs : List Char) : Prop :=
  ∀ rest : List Char, cutAt mark false (cs ++ rest) =
    (cs ++ (cutAt mark false rest).1, (cutAt mark false rest).2)

theorem passed_of_plain (free : '\'' ∉ cs) (other : first ∉ cs) : Passed (first :: mark) cs := by
  intro rest
  induction cs with
  | nil => rfl
  | cons c cs ih =>
    have noQuote : c ≠ '\'' := fun quote => free (by simp [quote])
    have noMark : first ≠ c := fun same => other (by simp [same])
    have later := ih (fun mem => free (List.mem_cons_of_mem c mem))
      fun mem => other (List.mem_cons_of_mem c mem)
    rw [List.cons_append, cutAt_cons_of_ne c noMark, if_neg noQuote, later]
    rfl

theorem cutAt_doubleQuotes (h : first ≠ '\'') (cs rest : List Char) :
    cutAt (first :: mark) true (Literal.doubleQuotes cs ++ '\'' :: rest) =
      (Literal.doubleQuotes cs ++ '\'' :: (cutAt (first :: mark) false rest).1,
        (cutAt (first :: mark) false rest).2) := by
  induction cs with
  | nil =>
    rw [Literal.doubleQuotes, List.nil_append, cutAt_cons_of_ne '\'' h, if_pos rfl]
    rfl
  | cons c cs ih =>
    by_cases quote : c = '\''
    · rw [Literal.doubleQuotes, if_pos quote, List.cons_append, List.cons_append,
        cutAt_cons_of_ne '\'' h, if_pos rfl, cutAt_cons_of_ne '\'' h, if_pos rfl,
        Bool.not_not, ih]
      rfl
    · rw [Literal.doubleQuotes, if_neg quote, List.cons_append, cutAt, Bool.not_true,
        Bool.false_and, if_neg Bool.false_ne_true, if_neg quote, ih]
      rfl

theorem passed_quotedChars (h : first ≠ '\'') (cs : List Char) :
    Passed (first :: mark) (Literal.quotedChars cs) := by
  intro rest
  have inside : cutAt (first :: mark) true (Literal.doubleQuotes cs ++ '\'' :: rest) = _ :=
    cutAt_doubleQuotes h cs rest
  rw [Literal.quotedChars, List.append_assoc, List.cons_append, cutAt_cons_of_ne '\'' h,
    if_pos rfl, Bool.not_false, List.singleton_append, inside]
  simp

theorem passed_quote (h : first ≠ '\'') (s : String) :
    Passed (first :: mark) (Literal.quote s).toList := by
  rw [Literal.toList_quote]
  exact passed_quotedChars h s.toList

theorem Passed.append {ds : List Char} (h : Passed mark cs) (later : Passed mark ds) :
    Passed mark (cs ++ ds) := by
  intro rest
  rw [List.append_assoc, h, later, List.append_assoc]

theorem passed_intercalate {sep : String} {l : List String} (free : '\'' ∉ sep.toList)
    (other : first ∉ sep.toList) (h : ∀ s ∈ l, Passed (first :: mark) s.toList) :
    Passed (first :: mark) (sep.intercalate l).toList := by
  induction l with
  | nil => exact passed_of_plain List.not_mem_nil List.not_mem_nil
  | cons s l ih =>
    obtain ⟨here, later⟩ := List.forall_mem_cons.1 h
    cases l with
    | nil =>
      rw [String.intercalate_singleton]
      exact here
    | cons t l =>
      rw [String.intercalate_cons_cons, String.toList_append, String.toList_append]
      exact (here.append (passed_of_plain free other)).append (ih later)

theorem Passed.cutAt_eq (h : Passed mark cs) (nonempty : mark ≠ []) (rest : List Char) :
    cutAt mark false (cs ++ (mark ++ rest)) = (cs, mark ++ rest) := by
  rw [h, cutAt_mark mark rest nonempty, List.append_nil]

theorem Passed.cutAt_self (h : Passed mark cs) : cutAt mark false cs = (cs, []) := by
  have whole := h []
  rwa [List.append_nil, cutAt, List.append_nil] at whole

end Cutting

section Parts

variable {α : Type} {part? : List Char → Option (α × List Char)} {cs rest : List Char} {a : α}

def readParts (part? : List Char → Option (α × List Char)) (cs : List Char) : List α :=
  match part? cs with
  | some (a, rest) => if rest.length < cs.length then a :: readParts part? rest else []
  | none => []
termination_by cs.length

theorem readParts_of_none (h : part? cs = none) : readParts part? cs = [] := by
  rw [readParts, h]

theorem readParts_of_some (h : part? cs = some (a, rest)) (shorter : rest.length < cs.length) :
    readParts part? cs = a :: readParts part? rest := by
  rw [readParts, h]
  exact if_pos shorter

def nextItem? (sep cs : List Char) : Option (List Char × List Char) :=
  if cs = [] then none
  else
    let (item, rest) := cutAt sep false cs
    some (item, rest.drop sep.length)

/-- The items of a list, where a separator inside of a literal does not count. -/
def items (sep cs : List Char) : List (List Char) :=
  readParts (nextItem? sep) cs

theorem items_intercalate {sep : String} (separates : sep.toList ≠ []) {l : List String}
    (nonempty : ∀ s ∈ l, s.toList ≠ []) (passed : ∀ s ∈ l, Passed sep.toList s.toList) :
    items sep.toList (sep.intercalate l).toList = l.map String.toList := by
  induction l with
  | nil => exact readParts_of_none rfl
  | cons s l ih =>
    obtain ⟨some, others⟩ := List.forall_mem_cons.1 nonempty
    obtain ⟨first, later⟩ := List.forall_mem_cons.1 passed
    cases l with
    | nil =>
      have item : nextItem? sep.toList s.toList = .some (s.toList, []) := by
        rw [nextItem?, if_neg some, first.cutAt_self]
        simp
      rw [String.intercalate_singleton, items,
        readParts_of_some item (List.length_pos_iff.2 some), readParts_of_none rfl]
      rfl
    | cons t l =>
      have item : nextItem? sep.toList (sep.intercalate (s :: t :: l)).toList =
          .some (s.toList, (sep.intercalate (t :: l)).toList) := by
        rw [String.intercalate_cons_cons, String.append_assoc, String.toList_append,
          String.toList_append, nextItem?, if_neg (List.append_ne_nil_of_left_ne_nil some _),
          first.cutAt_eq separates]
        simp
      have shorter : (sep.intercalate (t :: l)).toList.length <
          (sep.intercalate (s :: t :: l)).toList.length := by
        have positive := List.length_pos_iff.2 some
        rw [String.intercalate_cons_cons (l := l), String.toList_append, String.toList_append,
          List.length_append, List.length_append]
        omega
      rw [items, readParts_of_some item shorter, List.map_cons]
      exact congrArg _ (ih others later)

def constants? (constants : List (List Char)) : Option (List Value) :=
  constants.mapM fun constant => constant? (String.ofList constant)

def values? (list : String) : Option (List Value) :=
  constants? (items ", ".toList list.toList)

end Parts

end Sql

end TableSchema
