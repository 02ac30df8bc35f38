import TableSchema.Proofs.Descriptor.SuppliedFilter
import TableSchema.Proofs.Text.Uppering

/-!
Operators that validation lets pass. Compared in upper case, they need not be known ones: the
dotless i and the long s pass for the letters that they are capitalized to, and the operator is
rendered as it is.
-/

namespace TableSchema

namespace Filter

open Text (upper upperChar upperChars upperExpansions IsForeign)

/-- The operator is a known one, but for the case of ASCII letters. -/
def IsKnown (operator : String) : Prop :=
  ∃ known ∈ knownOperators, operator.toList.map Char.toUpper = known.toList

instance (operator : String) : Decidable (IsKnown operator) :=
  inferInstanceAs (Decidable (∃ known ∈ knownOperators, _))

/-- The operator holds a letter outside ASCII that is capitalized to one within. -/
def HasForeignLetter (operator : String) : Prop :=
  'ı' ∈ operator.toList ∨ 'ſ' ∈ operator.toList

instance (operator : String) : Decidable (HasForeignLetter operator) :=
  inferInstanceAs (Decidable (_ ∨ _))

theorem not_isForeign_of_known {known : String} (h : known ∈ knownOperators) :
    ∀ c ∈ known.toList, ¬ IsForeign c := by
  have checked : (knownOperators.all fun known => known.toList.all fun c =>
      decide (c ≠ '\x00' ∧ c.toNat < 128)) = true := by
    decide
  intro c hc foreign
  obtain ⟨nonzero, ascii⟩ :=
    of_decide_eq_true (List.all_eq_true.1 (List.all_eq_true.1 checked known h) c hc)
  rcases foreign with zero | wide
  · exact nonzero zero
  · omega

theorem not_expansion_infix_of_known {known : String} (h : known ∈ knownOperators) :
    ∀ entry ∈ upperExpansions, ¬ entry.2.map Char.ofNat <:+: known.toList := by
  have checked : (knownOperators.all fun known => upperExpansions.all fun entry =>
      decide (¬ entry.2.map Char.ofNat <:+: known.toList)) = true := by
    decide +kernel
  intro entry hentry
  exact of_decide_eq_true (List.all_eq_true.1 (List.all_eq_true.1 checked known h) entry hentry)

theorem ascii_of_upper_known {operator : String} (h : upper operator ∈ knownOperators)
    (plain : ¬ HasForeignLetter operator) : ∀ c ∈ operator.toList, c.toNat < 128 := by
  intro c hc
  by_contra wide
  have part : upperChar c <:+: (upper operator).toList := by
    rw [Text.toList_upper]
    exact Text.upperChar_infix_of_mem hc
  rcases Text.upperChar_cases wide with rfl | rfl | ⟨entry, hentry, image⟩ | ⟨x, hx, foreign⟩
  · exact plain (.inl hc)
  · exact plain (.inr hc)
  · exact not_expansion_infix_of_known h entry hentry (image ▸ part)
  · exact not_isForeign_of_known h x (part.mem hx) foreign

theorem isKnown_iff {operator : String} (h : upper operator ∈ knownOperators) :
    IsKnown operator ↔ ¬ HasForeignLetter operator := by
  constructor
  · rintro ⟨known, mem, letters⟩ foreign
    have foreign_mem (c : Char) (hc : c ∈ operator.toList) : c.toUpper ∈ known.toList :=
      letters ▸ List.mem_map_of_mem hc
    rcases foreign with dotless | long
    · exact not_isForeign_of_known mem _ (foreign_mem 'ı' dotless) (.inr (by decide))
    · exact not_isForeign_of_known mem _ (foreign_mem 'ſ' long) (.inr (by decide))
  · intro plain
    refine ⟨upper operator, h, ?_⟩
    rw [Text.toList_upper, Text.upperChars_of_ascii (ascii_of_upper_known h plain)]

theorem listOf_of_ofValue {given : Value} {f : Filter} (read : ofValue given = .ok f) :
    listOf given = .ok [f] := by
  cases given with
  | record r =>
    cases r with
    | nil => exact absurd read (by simp [ofValue, ofRecord_eq_error (r := []) (by decide)])
    | cons entry r => simp [listOf, Value.isTrue, read]
  | part part fields =>
    cases part with
    | filter => simp [listOf, Value.isTrue, read]
    | _ => exact absurd read (by simp [ofValue, Value.refuse])
  | _ => exact absurd read (by simp [ofValue, Value.refuse])

end Filter

namespace Validation

variable {given : Value} {f : Filter} {operator : String}

theorem filterIssues_eq (text : f.comparison = .text operator) :
    filterIssues f = .ok (if Text.upper operator ∈ Filter.knownOperators then []
      else [.unknownOperator operator (f.column.orElse f.aliasName)]) := by
  rw [filterIssues, text]
  by_cases known : Text.upper operator ∈ Filter.knownOperators
  · rw [if_pos known]
    exact if_pos (List.contains_iff_mem.2 known)
  · rw [if_neg known]
    exact if_neg (mt List.contains_iff_mem.1 known)

theorem checkFilter_eq_nil_iff (settings : Settings) (read : Filter.ofValue given = .ok f)
    (text : f.comparison = .text operator) :
    (checkFilter settings given).outcome = .ok [] ↔
      Text.upper operator ∈ Filter.knownOperators := by
  rw [checkFilter, read, Observed.lift_ok_bind, filterIssues_eq text, Observed.lift_ok_bind]
  change Except.ok (if Text.upper operator ∈ Filter.knownOperators then [] else _) = _ ↔ _
  by_cases known : Text.upper operator ∈ Filter.knownOperators
  · simp [known]
  · simp [known]

end Validation

namespace Descriptor

open TableSchema.Filter (IsKnown HasForeignLetter)

variable {d : Descriptor} {given : Value} {f : Filter} {column operator : String}

structure RendersOperator (d : Descriptor) (given : Value) (f : Filter)
    (column operator : String) : Prop where
  condition : d.condition f = .ok (column ++ " " ++ operator ++ " " ++ Literal.ofFilter f.value)
  clause : d.whereClause given =
    .ok (" WHERE " ++ (column ++ " " ++ operator ++ " " ++ Literal.ofFilter f.value))
  /-- What stands between the column and the literal is a known operator, but for the case of ASCII
  letters, exactly if it holds neither of the two foreign letters. -/
  known : IsKnown operator ↔ ¬ HasForeignLetter operator

theorem condition_of_operator (named : d.filterColumn f = .ok column)
    (text : f.comparison = .text operator) (value : f.value ≠ .null) :
    d.condition f = .ok (column ++ " " ++ operator ++ " " ++ Literal.ofFilter f.value) := by
  have present : f.value.isNull = false := by
    rwa [← Bool.not_eq_true, Value.isNull_iff]
  rw [condition, named, filterTest, present, text]
  simp only [String.append_assoc]
  rfl

/-- The operator of a filter that passes is rendered as it is. -/
theorem rendersOperator (d : Descriptor) (settings : Settings)
    (read : Filter.ofValue given = .ok f) (text : f.comparison = .text operator)
    (value : f.value ≠ .null) (named : d.filterColumn f = .ok column)
    (passes : (Validation.checkFilter settings given).outcome = .ok []) :
    d.RendersOperator given f column operator := by
  have condition := condition_of_operator named text value
  refine ⟨condition, ?_, ?_⟩
  · rw [whereClause, Filter.listOf_of_ofValue read]
    change ([f].mapM d.condition >>= fun texts => pure (whereText texts)) = _
    rw [List.mapM_cons, condition]
    rfl
  · exact Filter.isKnown_iff ((Validation.checkFilter_eq_nil_iff settings read text).1 passes)

def mixedFilter : Value :=
  .record [("column", .text "weight"), ("operator", .text "iLike"), ("value", .text "a%")]

theorem rendersOperator_of_mixedFilter :
    parcelTable.whereClause mixedFilter = .ok " WHERE p.weight iLike 'a%'" ∧ IsKnown "iLike" := by
  have rendered : parcelTable.RendersOperator mixedFilter _ "p.weight" "iLike" :=
    rendersOperator parcelTable {} rfl rfl (by decide) rfl (by decide)
  exact ⟨rendered.clause, rendered.known.2 (by decide)⟩

def dotlessFilter : Value :=
  .record [("column", .text "weight"), ("operator", .text "lıke"), ("value", .text "a%")]

/-- It passes for the known one that it is capitalized to, and yet is rendered as it is. -/
theorem not_forall_isKnown :
    ¬ ∀ (d : Descriptor) (settings : Settings) (given : Value) (f : Filter)
        (column operator : String),
      Filter.ofValue given = .ok f → f.comparison = .text operator → f.value ≠ .null →
      d.filterColumn f = .ok column →
      (Validation.checkFilter settings given).outcome = .ok [] →
        ∃ shown, d.whereClause given =
            .ok (" WHERE " ++ (column ++ " " ++ shown ++ " " ++ Literal.ofFilter f.value)) ∧
          IsKnown shown := by
  intro h
  obtain ⟨shown, clause, known⟩ := h parcelTable {} dotlessFilter _ "p.weight" "lıke" rfl rfl
    (by decide) rfl (by decide)
  have rendered : parcelTable.whereClause dotlessFilter = .ok
      (" WHERE " ++ ("p.weight" ++ " " ++ "lıke" ++ " " ++ Literal.ofFilter (.text "a%"))) := rfl
  have same : " WHERE " ++ ("p.weight" ++ " " ++ shown ++ " " ++ Literal.ofFilter (.text "a%")) =
      " WHERE " ++ ("p.weight" ++ " " ++ "lıke" ++ " " ++ Literal.ofFilter (.text "a%")) :=
    Except.ok.inj (clause.symm.trans rendered)
  obtain rfl : shown = "lıke" := by
    simpa only [String.append_right_inj, String.append_left_inj] using same
  exact absurd known (by decide)

end Descriptor

end TableSchema
