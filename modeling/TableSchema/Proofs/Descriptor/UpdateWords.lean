import TableSchema.Proofs.Descriptor.PlainNames
import TableSchema.Proofs.Verification.UpdateProblem

/-!
The words of a generated `UPDATE`. Whatever its table, alias and columns are called, it shows a sign
of degeneration only where it is generated without assignments or without a primary key.
-/

namespace TableSchema.Descriptor

open Text Verification

variable {d : Descriptor} {table : String} {columns : List Column}

def assignmentTokens (d : Descriptor) : List Column → List Token
  | [] => []
  | c :: cs =>
    ⟨d.aliasName, "."⟩ :: ⟨c.name.display, " = $"⟩ ::
      ⟨d.prefixed c.name.display, if cs.isEmpty then " " else ", "⟩ :: d.assignmentTokens cs

def keyTokens (d : Descriptor) : List Token :=
  match d.primaryColumn? with
  | none => [⟨"null", " = $"⟩]
  | some c => [⟨d.aliasName, "."⟩, ⟨c.name.display, " = $"⟩]

def keyParameter (d : Descriptor) : String :=
  (d.primaryKey? true).getD "null"

/-- Without assignments, two blanks stand between `SET` and `WHERE`. -/
def setToken (columns : List Column) : Token :=
  ⟨"SET", if columns.isEmpty then "  " else " "⟩

def updateTokens (d : Descriptor) (table : String) (columns : List Column) : List Token :=
  ⟨"UPDATE", " "⟩ :: ⟨table, " "⟩ :: ⟨"AS", " "⟩ :: ⟨d.aliasName, " "⟩ ::
    setToken columns :: (d.assignmentTokens columns ++ ⟨"WHERE", " "⟩ :: d.keyTokens)

theorem spell_assignmentTokens (d : Descriptor) (c : Column) (cs : List Column)
    (ts : List Token) (last : String) :
    spell (d.assignmentTokens (c :: cs) ++ ts) last =
      (", ".intercalate ((c :: cs).map d.assignment)).toList ++ (" ".toList ++ spell ts last) := by
  induction cs generalizing c with
  | nil =>
    simp only [assignmentTokens, assignment, reference, List.cons_append, List.nil_append, spell,
      List.map_cons, List.map_nil, String.intercalate_singleton, String.toList_append,
      List.append_assoc, List.isEmpty_nil, if_true]
  | cons next cs ih =>
    have step : spell (d.assignmentTokens (c :: next :: cs) ++ ts) last =
        (d.assignment c).toList ++
          (", ".toList ++ spell (d.assignmentTokens (next :: cs) ++ ts) last) := by
      rw [assignmentTokens]
      simp only [assignment, reference, List.cons_append, spell, String.toList_append,
        List.append_assoc]
      rfl
    have joined : ", ".intercalate ((c :: next :: cs).map d.assignment) =
        d.assignment c ++ ", " ++ ", ".intercalate ((next :: cs).map d.assignment) :=
      String.intercalate_cons_cons
    rw [step, ih next, joined, String.toList_append, String.toList_append]
    simp only [List.append_assoc]

theorem spell_keyTokens (d : Descriptor) :
    spell d.keyTokens d.keyParameter =
      ((d.primaryKey? false).getD "null").toList ++ (" = $".toList ++ d.keyParameter.toList) := by
  unfold keyTokens keyParameter primaryKey?
  cases d.primaryColumn? with
  | none => rfl
  | some c =>
    simp only [spell, Option.map_some, Option.getD_some, reference, prefixed, String.toList_append,
      List.append_assoc, if_true, Bool.false_eq_true, if_false]

theorem spell_updateTokens (d : Descriptor) (table : String) (columns : List Column) :
    spell (d.updateTokens table columns) d.keyParameter = (d.updateText table columns).toList := by
  have update : "UPDATE ".toList = "UPDATE".toList ++ " ".toList := rfl
  have named : " AS ".toList = " ".toList ++ ("AS".toList ++ " ".toList) := rfl
  have assigned : " SET ".toList = " ".toList ++ ("SET".toList ++ " ".toList) := rfl
  have condition : " WHERE ".toList = " ".toList ++ ("WHERE".toList ++ " ".toList) := rfl
  have twice : "  ".toList = " ".toList ++ " ".toList := rfl
  have key := spell_keyTokens d
  unfold updateTokens updateText setToken
  simp only [String.toList_append, update, named, assigned, condition, List.append_assoc, spell]
  cases columns with
  | nil =>
    simp only [assignmentTokens, List.isEmpty_nil, if_true, List.nil_append, spell, twice, key,
      List.map_nil, String.intercalate_nil, List.append_assoc, String.toList_empty]
    rfl
  | cons c cs =>
    rw [spell_assignmentTokens, spell, key]
    rfl

theorem isIdentifier_prefixed (ha : IsIdentifier d.aliasName) {name : String}
    (hn : IsIdentifier name) : IsIdentifier (d.prefixed name) :=
  (ha.append (by decide)).append (all_isIdentifierChar hn)

theorem underscore_mem_prefixed (d : Descriptor) (name : String) :
    '_' ∈ (d.prefixed name).toList := by
  simp [prefixed]

theorem followsKeyword_assignmentTokens {keyword : String} (hk : '_' ∉ keyword.toList)
    (next : List Char → Bool) (d : Descriptor) (columns : List Column) (ts : List Token)
    (last : String) :
    followsKeyword keyword next (d.assignmentTokens columns ++ ts) last =
      followsKeyword keyword next ts last := by
  induction columns with
  | nil => rfl
  | cons c cs ih =>
    have point : ".".toList.all isBlank = false := by decide
    have equals : " = $".toList.all isBlank = false := by decide
    have parameter : isKeyword keyword (d.prefixed c.name.display) = false :=
      isKeyword_of_underscore hk (underscore_mem_prefixed d c.name.display)
    simp only [assignmentTokens, List.cons_append, followsKeyword, point, equals, parameter,
      Bool.false_and, Bool.and_false, Bool.false_or, ih]

theorem isProper_assignmentTokens (ha : IsIdentifier d.aliasName)
    (hc : ∀ c ∈ columns, c.name.IsIdentifier) : ∀ t ∈ d.assignmentTokens columns, t.IsProper := by
  induction columns with
  | nil => simp [assignmentTokens]
  | cons c cs ih =>
    have name := (hc c List.mem_cons_self).display
    have others := ih fun x hx => hc x (List.mem_cons_of_mem c hx)
    have separator : ∀ single : Bool, isGap (if single then " " else ", ") = true := by decide
    rw [assignmentTokens, List.forall_mem_cons, List.forall_mem_cons, List.forall_mem_cons]
    refine ⟨isProper_of_isIdentifier ha (by decide), isProper_of_isIdentifier name (by decide), ?_,
      others⟩
    exact isProper_of_isIdentifier (isIdentifier_prefixed ha name) (separator cs.isEmpty)

theorem name_of_primaryColumn? (hd : d.HasPlainNames) {c : Column} (h : d.primaryColumn? = some c) :
    IsIdentifier c.name.display :=
  (hd.columns c (List.mem_of_find?_eq_some h)).display

theorem isProper_keyTokens (hd : d.HasPlainNames) (ha : IsIdentifier d.aliasName) :
    ∀ t ∈ d.keyTokens, t.IsProper := by
  unfold keyTokens
  cases key : d.primaryColumn? with
  | none =>
    rw [List.forall_mem_singleton]
    exact isProper_of_isIdentifier (by decide) (by decide)
  | some c =>
    rw [List.forall_mem_cons, List.forall_mem_singleton]
    exact ⟨isProper_of_isIdentifier ha (by decide),
      isProper_of_isIdentifier (name_of_primaryColumn? hd key) (by decide)⟩

theorem isIdentifier_keyParameter (hd : d.HasPlainNames) (ha : IsIdentifier d.aliasName) :
    IsIdentifier d.keyParameter := by
  unfold keyParameter primaryKey?
  cases key : d.primaryColumn? with
  | none => exact (show IsIdentifier "null" by decide)
  | some c => exact isIdentifier_prefixed ha (name_of_primaryColumn? hd key)

theorem isProper_setToken (columns : List Column) : (setToken columns).IsProper := by
  have wide : ∀ none : Bool, isGap (if none then "  " else " ") = true := by decide
  exact isProper_of_isIdentifier (by decide) (wide columns.isEmpty)

theorem isProper_fixed {word : String} (identifier : IsIdentifier word) :
    (⟨word, " "⟩ : Token).IsProper :=
  isProper_of_isIdentifier identifier (by decide)

theorem isProper_updateTokens (hd : d.HasPlainNames) (ha : IsIdentifier d.aliasName)
    (ht : IsIdentifier table) (hc : ∀ c ∈ columns, c.name.IsIdentifier) :
    ∀ t ∈ d.updateTokens table columns, t.IsProper := by
  have later : ∀ t ∈ d.assignmentTokens columns ++ ⟨"WHERE", " "⟩ :: d.keyTokens, t.IsProper := by
    rw [List.forall_mem_append, List.forall_mem_cons]
    exact ⟨isProper_assignmentTokens ha hc, isProper_fixed (by decide), isProper_keyTokens hd ha⟩
  unfold updateTokens
  repeat rw [List.forall_mem_cons]
  exact ⟨isProper_fixed (by decide), isProper_fixed ht, isProper_fixed (by decide),
    isProper_fixed ha, isProper_setToken columns, later⟩

theorem followsKeyword_keyTokens {keyword : String} (hk : isKeyword keyword "null" = false)
    (next : List Char → Bool) (d : Descriptor) (last : String) :
    followsKeyword keyword next d.keyTokens last = false := by
  have point : ".".toList.all isBlank = false := by decide
  have equals : " = $".toList.all isBlank = false := by decide
  unfold keyTokens
  cases d.primaryColumn? with
  | none => simp only [followsKeyword, hk, Bool.false_and, Bool.false_or]
  | some c =>
    simp only [followsKeyword, point, equals, Bool.false_and, Bool.and_false, Bool.false_or]

theorem followsKeyword_updateTokens {keyword : String} {next : List Char → Bool} {last : String}
    (plain : '_' ∉ keyword.toList) (atUpdate : isKeyword keyword "UPDATE" = false)
    (atAs : isKeyword keyword "AS" = false) (atNull : isKeyword keyword "null" = false)
    (behindTable : ∀ ts, next (spell (⟨"AS", " "⟩ :: ts) last) = false)
    (behindAlias : ∀ ts, next (spell (setToken columns :: ts) last) = false) :
    followsKeyword keyword next (d.updateTokens table columns) last =
      ((isKeyword keyword "SET" && next (spell
          (d.assignmentTokens columns ++ ⟨"WHERE", " "⟩ :: d.keyTokens) last)) ||
        (isKeyword keyword "WHERE" && next (spell d.keyTokens last))) := by
  have word : (setToken columns).word = "SET" := rfl
  have blank : " ".toList.all isBlank = true := by decide
  have wide : (setToken columns).gap.toList.all isBlank = true := by
    unfold setToken
    cases columns.isEmpty <;> decide
  have atKey := followsKeyword_keyTokens atNull next d last
  simp only [updateTokens, followsKeyword, followsKeyword_assignmentTokens plain, atUpdate,
    behindTable, atAs, behindAlias, word, wide, blank, atKey, Bool.false_and, Bool.and_false,
    Bool.true_and, Bool.false_or, Bool.or_false]

theorem isKeyword_where_of_lower_ne {name : String} (hn : IsIdentifier name)
    (h : lower name ≠ "where") : isKeyword "WHERE" name = false := by
  refine decide_eq_false fun same => h ?_
  have lowered : ∀ c ∈ name.toList, c.toLower = c.toUpper.toLower := by
    intro c hc
    have ascii := toNat_lt_of_identifierChar (identifierChar_of_mem hn hc)
    refine forall_ascii (p := fun c => c.toLower = c.toUpper.toLower) ?_ c ascii
    decide
  have chars : name.toList.map Char.toLower = "where".toList := by
    calc name.toList.map Char.toLower
      _ = name.toList.map (fun c => c.toUpper.toLower) := List.map_congr_left lowered
      _ = (name.toList.map Char.toUpper).map Char.toLower := by rw [List.map_map]; rfl
      _ = "where".toList := by rw [same]; decide
  rw [← String.toList_inj, toList_lower, lowerChars_of_isIdentifier hn, chars]

section Signs

variable (hd : d.HasPlainNames) (ha : IsIdentifier d.aliasName) (ht : IsIdentifier table)
  (hc : ∀ c ∈ columns, c.name.IsIdentifier)

include hd ha ht hc

theorem hasEmptySet_updateText (other : lower d.aliasName ≠ "where") :
    hasEmptySet (d.updateText table columns).toList = columns.isEmpty := by
  have proper := isProper_updateTokens hd ha ht hc
  have atSet : isKeyword "SET" "SET" = true := by decide
  have atWhere : isKeyword "SET" "WHERE" = false := by decide
  have behindTable (ts : List Token) :
      isWhere (spell (⟨"AS", " "⟩ :: ts) d.keyParameter) = false :=
    (isWhere_spell (isProper_fixed (by decide))).trans (by decide)
  have behindAlias (ts : List Token) :
      isWhere (spell (setToken columns :: ts) d.keyParameter) = false :=
    (isWhere_spell (isProper_setToken columns)).trans
      (show isKeyword "WHERE" "SET" = false by decide)
  have behindSet : isWhere (spell (d.assignmentTokens columns ++ ⟨"WHERE", " "⟩ :: d.keyTokens)
      d.keyParameter) = columns.isEmpty := by
    cases columns with
    | nil => exact (isWhere_spell (isProper_fixed (by decide))).trans (by decide)
    | cons c cs =>
      have first : (⟨d.aliasName, "."⟩ : Token).IsProper := isProper_of_isIdentifier ha (by decide)
      rw [assignmentTokens, List.cons_append, isWhere_spell first]
      exact isKeyword_where_of_lower_ne ha other
  rw [← spell_updateTokens, hasEmptySet_spell proper (isIdentifier_keyParameter hd ha),
    followsKeyword_updateTokens (by decide) (by decide) (by decide) (by decide) behindTable
      behindAlias, behindSet, atSet, atWhere, Bool.true_and, Bool.false_and, Bool.or_false]

theorem hasNullKey_updateText :
    hasNullKey (d.updateText table columns).toList = d.primaryColumn?.isNone := by
  have proper := isProper_updateTokens hd ha ht hc
  have atSet : isKeyword "WHERE" "SET" = false := by decide
  have atWhere : isKeyword "WHERE" "WHERE" = true := by decide
  have behindTable (ts : List Token) :
      isNullComparison (spell (⟨"AS", " "⟩ :: ts) d.keyParameter) = false := by
    have other : isKeyword "NULL" "AS" = false := by decide
    rw [isNullComparison_spell (isProper_fixed (by decide)), other, Bool.false_and]
  have behindAlias (ts : List Token) :
      isNullComparison (spell (setToken columns :: ts) d.keyParameter) = false := by
    have other : isKeyword "NULL" (setToken columns).word = false :=
      show isKeyword "NULL" "SET" = false by decide
    rw [isNullComparison_spell (isProper_setToken columns), other, Bool.false_and]
  have behindWhere :
      isNullComparison (spell d.keyTokens d.keyParameter) = d.primaryColumn?.isNone := by
    unfold keyTokens keyParameter primaryKey?
    cases d.primaryColumn? with
    | none => exact (show isNullComparison (spell [⟨"null", " = $"⟩] "null") = true by decide)
    | some c =>
      have first : (⟨d.aliasName, "."⟩ : Token).IsProper := isProper_of_isIdentifier ha (by decide)
      have point (cs : List Char) : isNullParameter (".".toList ++ cs) = false :=
        isNullParameter_of_not_equals (by decide) (by decide) cs
      rw [isNullComparison_spell first, point, Bool.and_false]
      rfl
  rw [← spell_updateTokens, hasNullKey_spell proper (isIdentifier_keyParameter hd ha),
    followsKeyword_updateTokens (by decide) (by decide) (by decide) (by decide) behindTable
      behindAlias, behindWhere, atSet, atWhere, Bool.true_and, Bool.false_and, Bool.false_or]

end Signs

end TableSchema.Descriptor
