import TableSchema.Literal
import TableSchema.Proofs.Verification.Masking

/-!
Literals in masked statements. Quoting does not keep a text from being masked: what looks like a
placeholder in it is found and changed as it is outside of quotes, and nothing around the literal
makes a difference.
-/

namespace TableSchema.Verification

open Text

section Marks

/-- Before a letter or an underscore there is a dollar sign that does not follow another one. The
flag says whether the text itself follows one. -/
def HoldsMarkFrom (afterDollar : Bool) (cs : List Char) : Prop :=
  ∃ before c after, cs = before ++ '$' :: c :: after ∧ isIdentifierStart c = true ∧
    before.getLast?.elim afterDollar (· = '$') = false

theorem opensPlaceholder_iff {afterDollar : Bool} {x : Char} {cs : List Char} :
    opensPlaceholder afterDollar x cs = true ↔
      x = '$' ∧ afterDollar = false ∧ ∃ c after, cs = c :: after ∧ isIdentifierStart c = true := by
  unfold opensPlaceholder
  cases cs with
  | nil => simp
  | cons c after => simp [and_assoc]

theorem holdsMarkFrom_cons_iff (afterDollar : Bool) (x : Char) (cs : List Char) :
    HoldsMarkFrom afterDollar (x :: cs) ↔
      opensPlaceholder afterDollar x cs = true ∨ HoldsMarkFrom (x = '$') cs := by
  have last (before : List Char) : (x :: before).getLast?.elim afterDollar (· = '$') =
      before.getLast?.elim (decide (x = '$')) (· = '$') := by
    rw [List.getLast?_cons]
    cases before.getLast? <;> rfl
  constructor
  · rintro ⟨before, c, after, split, start, free⟩
    cases before with
    | nil =>
      obtain ⟨rfl, rfl⟩ := List.cons.inj split
      exact .inl (opensPlaceholder_iff.2 ⟨rfl, free, c, after, rfl, start⟩)
    | cons y before =>
      obtain ⟨rfl, rfl⟩ := List.cons.inj split
      exact .inr ⟨before, c, after, rfl, start, (last before).symm.trans free⟩
  · rintro (opens | ⟨before, c, after, rfl, start, free⟩)
    · obtain ⟨rfl, free, c, after, rfl, start⟩ := opensPlaceholder_iff.1 opens
      exact ⟨[], c, after, rfl, start, free⟩
    · exact ⟨x :: before, c, after, rfl, start, (last before).trans free⟩

theorem placeholdersFrom_eq_nil_iff (afterDollar : Bool) (cs : List Char) :
    placeholdersFrom afterDollar cs = [] ↔ ¬ HoldsMarkFrom afterDollar cs := by
  induction cs generalizing afterDollar with
  | nil => simp [placeholdersFrom, HoldsMarkFrom]
  | cons x cs ih =>
    rw [placeholdersFrom, List.append_eq_nil_iff, ih, holdsMarkFrom_cons_iff, not_or]
    cases opensPlaceholder afterDollar x cs <;> simp

theorem maskFrom_eq_self {afterDollar : Bool} {cs : List Char}
    (none : placeholdersFrom afterDollar cs = []) : maskFrom afterDollar cs = cs := by
  induction cs generalizing afterDollar with
  | nil => rfl
  | cons c cs ih =>
    rw [placeholdersFrom, List.append_eq_nil_iff] at none
    rw [maskFrom, ih none.2]
    cases opens : opensPlaceholder afterDollar c cs with
    | true => simp [opens] at none
    | false => rfl

def HoldsMark (s : String) : Prop :=
  ∃ before c after, s.toList = before ++ '$' :: c :: after ∧ isIdentifierStart c = true ∧
    before.getLast? ≠ some '$'

theorem placeholders_eq_nil_iff (s : String) : placeholders s = [] ↔ ¬ HoldsMark s := by
  rw [placeholders, List.map_eq_nil_iff, placeholdersFrom_eq_nil_iff, HoldsMarkFrom, HoldsMark]
  refine not_congr (exists_congr fun before => exists_congr fun c => exists_congr fun after => ?_)
  refine and_congr_right fun _ => and_congr_right fun _ => ?_
  cases before.getLast? <;> simp

theorem mask_eq_self {s : String} (none : placeholders s = []) : mask s = s := by
  rw [placeholders, List.map_eq_nil_iff] at none
  rw [mask, maskFrom_eq_self none, String.ofList_toList]

end Marks

section Quotes

open Literal (doubleQuotes quotedChars quote)

variable {afterDollar : Bool}

theorem takeWhile_doubleQuotes (cs rest : List Char) :
    (doubleQuotes cs ++ '\'' :: rest).takeWhile isIdentifierChar =
      cs.takeWhile isIdentifierChar := by
  have quote : isIdentifierChar '\'' = false := by decide
  induction cs with
  | nil => simp [doubleQuotes, quote]
  | cons c cs ih =>
    by_cases quoted : c = '\''
    · subst quoted
      simp [doubleQuotes, quote]
    · rw [doubleQuotes, if_neg quoted, List.cons_append, List.takeWhile_cons, List.takeWhile_cons,
        ih]

theorem opensPlaceholder_doubleQuotes (afterDollar : Bool) (c : Char) (cs rest : List Char) :
    opensPlaceholder afterDollar c (doubleQuotes cs ++ '\'' :: rest) =
      opensPlaceholder afterDollar c cs := by
  have quote : isIdentifierStart '\'' = false := by decide
  unfold opensPlaceholder
  cases cs with
  | nil => simp [doubleQuotes, quote]
  | cons x cs =>
    by_cases quoted : x = '\''
    · subst quoted
      simp [doubleQuotes, quote]
    · simp [doubleQuotes, quoted]

theorem opensPlaceholder_quote (afterDollar : Bool) (cs : List Char) :
    opensPlaceholder afterDollar '\'' cs = false := by
  rfl

theorem placeholdersFrom_doubleQuotes (afterDollar : Bool) (cs rest : List Char) :
    placeholdersFrom afterDollar (doubleQuotes cs ++ '\'' :: rest) =
      placeholdersFrom afterDollar cs ++ placeholdersFrom false rest := by
  induction cs generalizing afterDollar with
  | nil => rfl
  | cons c cs ih =>
    by_cases quoted : c = '\''
    · subst quoted
      simp [doubleQuotes, placeholdersFrom, opensPlaceholder_quote, ih]
    · rw [doubleQuotes, if_neg quoted, List.cons_append, placeholdersFrom, placeholdersFrom, ih,
        opensPlaceholder_doubleQuotes, takeWhile_doubleQuotes, List.append_assoc]

theorem maskFrom_doubleQuotes (afterDollar : Bool) (cs rest : List Char) :
    maskFrom afterDollar (doubleQuotes cs ++ '\'' :: rest) =
      doubleQuotes (maskFrom afterDollar cs) ++ '\'' :: maskFrom false rest := by
  induction cs generalizing afterDollar with
  | nil => rfl
  | cons c cs ih =>
    by_cases quoted : c = '\''
    · subst quoted
      simp [doubleQuotes, maskFrom, opensPlaceholder_quote, ih]
    · have shown : (if opensPlaceholder afterDollar c cs then ':' else c) ≠ '\'' := by
        split
        · decide
        · exact quoted
      rw [doubleQuotes, if_neg quoted, List.cons_append, maskFrom, maskFrom, ih,
        opensPlaceholder_doubleQuotes, doubleQuotes, if_neg shown, List.cons_append]

end Quotes

structure Masks (text shown : String) (names : List String) : Prop where
  masked : ∀ rest, maskFrom false (text.toList ++ rest) = shown.toList ++ maskFrom false rest
  found : ∀ rest, (placeholdersFrom false (text.toList ++ rest)).map String.ofList =
    names ++ (placeholdersFrom false rest).map String.ofList

namespace Masks

variable {a a' b b' s : String} {ns ms : List String}

theorem plain (hs : '$' ∉ s.toList) : Masks s s [] where
  masked rest := (scan_plain hs rest).1
  found rest := by rw [(scan_plain hs rest).2, List.nil_append]

theorem append (ha : Masks a a' ns) (hb : Masks b b' ms) :
    Masks (a ++ b) (a' ++ b') (ns ++ ms) where
  masked rest := by
    rw [String.toList_append, String.toList_append, List.append_assoc, ha.masked, hb.masked,
      List.append_assoc]
  found rest := by
    rw [String.toList_append, List.append_assoc, ha.found, hb.found, List.append_assoc]

theorem plain_append (hs : '$' ∉ s.toList) (ha : Masks a a' ns) : Masks (s ++ a) (s ++ a') ns :=
  (plain hs).append ha

theorem quote (s : String) :
    Masks (Literal.quote s) (Literal.quote (mask s)) (placeholders s) where
  masked rest := by
    rw [Literal.toList_quote, Literal.toList_quote, mask, String.toList_ofList]
    unfold Literal.quotedChars
    rw [List.cons_append, List.cons_append, List.append_assoc, List.singleton_append, maskFrom,
      opensPlaceholder_quote, if_neg Bool.false_ne_true]
    have inside := maskFrom_doubleQuotes false s.toList rest
    simpa using inside
  found rest := by
    rw [Literal.toList_quote]
    unfold Literal.quotedChars
    rw [List.cons_append, List.cons_append, List.append_assoc, List.singleton_append,
      placeholdersFrom, opensPlaceholder_quote, if_neg Bool.false_ne_true, List.nil_append]
    have inside := placeholdersFrom_doubleQuotes false s.toList rest
    simpa [placeholders] using congrArg (List.map String.ofList) inside

theorem intercalate {α : Type} {sep : String} (hs : '$' ∉ sep.toList) {text shown : α → String}
    {names : α → List String} {xs : List α} (h : ∀ x ∈ xs, Masks (text x) (shown x) (names x)) :
    Masks (sep.intercalate (xs.map text)) (sep.intercalate (xs.map shown)) (xs.flatMap names) := by
  induction xs with
  | nil => exact plain (show '$' ∉ "".toList by decide)
  | cons x xs ih =>
    obtain ⟨first, others⟩ := List.forall_mem_cons.1 h
    cases xs with
    | nil => simpa using first
    | cons y ys =>
      rw [List.map_cons, List.map_cons, List.map_cons, List.map_cons,
        String.intercalate_cons_cons, String.intercalate_cons_cons, String.append_assoc,
        String.append_assoc, List.flatMap_cons]
      exact first.append ((ih others).plain_append hs)

theorem mask_eq (h : Masks a a' ns) : mask a = a' := by
  have whole := h.masked []
  rw [List.append_nil, maskFrom, List.append_nil] at whole
  rw [mask, whole, String.ofList_toList]

theorem placeholders_eq (h : Masks a a' ns) : placeholders a = ns := by
  have whole := h.found []
  rwa [List.append_nil, placeholdersFrom, List.map_nil, List.append_nil] at whole

end Masks

end TableSchema.Verification
