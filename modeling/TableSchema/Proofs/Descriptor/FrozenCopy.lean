import TableSchema.Descriptor.Query
import TableSchema.Proofs.Descriptor.Extension
import TableSchema.Proofs.Text.Lowering

/-!
What freezing answers. A descriptor that validation admits is copied as it is, its alias included,
since lowering that again changes nothing; the copy answers every question about the table as the
original does. Otherwise the fault tells what validation has found.
-/

namespace TableSchema

/-- The question is about the state of the descriptor, and not about its table. -/
def Query.isAboutState : Query → Bool
  | .summary => true
  | _ => false

namespace Descriptor

variable {d copy : Descriptor} {issues : List Issue}

/-- Validation is strict and has found an error. -/
def IsForbidden (d : Descriptor) (issues : List Issue) : Prop :=
  d.settings.strictValidation = true ∧ ∃ issue ∈ issues, issue.isError = true

instance : Decidable (d.IsForbidden issues) :=
  inferInstanceAs (Decidable (_ ∧ _))

structure Rejects (fault : Fault) (d : Descriptor) (issues : List Issue) : Prop where
  cause : fault = .invalid d.tableName issues
  code : ∃ before first after, issues = before ++ first :: after ∧
    (∀ issue ∈ before, issue.isError = false) ∧ first.isError = true ∧
    fault.code? = some first.code
  details : fault.details = (issues.filter Issue.isError).map Issue.message

structure IsFrozenCopy (copy d : Descriptor) : Prop where
  frozen : copy.frozen = true
  tableName : copy.tableName = d.tableName
  aliasName : copy.aliasName = d.aliasName
  columns : copy.columns = d.columns
  constraints : copy.constraints = d.constraints
  settings : copy.settings = d.settings
  /-- The answer, or the fault in its place, and all that is logged and counted are the same. -/
  answers : ∀ query, query.isAboutState = false → copy.answer query = d.answer query

def IsAliasSettled (d : Descriptor) : Prop :=
  aliasFor d.tableName (.text d.aliasName) = .ok d.aliasName

theorem exists_text_of_lowerName {name : Value} {s : String} (h : lowerName name = .ok s) :
    ∃ t, name = .text t ∧ s = Text.lower t := by
  cases name with
  | text t => exact ⟨t, rfl, (Except.ok.inj h).symm⟩
  | _ => simp [lowerName, Value.requireText, Value.refuse, Functor.map, Except.map] at h

theorem aliasFor_aliasFor {tableName aliasName : Value} {s : String}
    (h : aliasFor tableName aliasName = .ok s) : aliasFor tableName (.text s) = .ok s := by
  obtain ⟨t, chosen, rfl⟩ := exists_text_of_lowerName h
  by_cases empty : t = ""
  · subst empty
    have table : tableName = .text "" := by
      unfold Value.orElse at chosen
      split at chosen
      next used =>
        rw [chosen] at used
        exact absurd used (by decide)
      next => exact chosen
    rw [table]
    rfl
  · have used : (Value.text (Text.lower t)).isTrue = true := by
      have present : Text.lower t ≠ "" := fun none => empty ((Text.lower_eq_empty_iff t).1 none)
      simpa [Value.isTrue] using present
    have twice := Text.lower_lower t
    rw [aliasFor, Value.orElse, if_pos used]
    exact congrArg Except.ok twice

theorem isAliasSettled_of_ofDraft {settings : Settings} {draft : Draft}
    (built : ofDraft settings draft = .ok d) : d.IsAliasSettled := by
  obtain ⟨-, tableName, aliasName, -, -⟩ := ofDraft_eq_ok built
  rw [IsAliasSettled, tableName]
  exact aliasFor_aliasFor aliasName

theorem IsAliasSettled.extendedBy (settled : d.IsAliasSettled)
    (added : (m : Member) → List m.Item) : (d.extendedBy added).IsAliasSettled := by
  unfold Descriptor.extendedBy
  split <;> exact settled

theorem eq_of_freeze_eq_ok (settled : d.IsAliasSettled) (h : d.freeze.outcome = .ok copy) :
    copy = { d with frozen := true } := by
  obtain ⟨issues, aliasName, -, -, lowered, rfl⟩ := freeze_eq_ok h
  obtain rfl : d.aliasName = aliasName := Except.ok.inj (settled.symm.trans lowered)
  rfl

theorem IsAliasSettled.freeze (settled : d.IsAliasSettled) (h : d.freeze.outcome = .ok copy) :
    copy.IsAliasSettled := by
  obtain rfl := eq_of_freeze_eq_ok settled h
  exact settled

theorem isForbidden_iff :
    (d.settings.strictValidation && issues.any Issue.isError) = true ↔ d.IsForbidden issues := by
  rw [Bool.and_eq_true, List.any_eq_true, IsForbidden]

theorem freeze_eq_of_forbidden (valid : d.validate.outcome = .ok issues)
    (forbidden : d.IsForbidden issues) :
    d.freeze = ⟨.error (.invalid d.tableName issues), d.validate.events⟩ := by
  rw [Descriptor.freeze, Observed.bind_eq, Observed.bind, valid]
  dsimp only
  rw [if_pos (isForbidden_iff.2 forbidden), Observed.outcome_lift, Observed.events_lift,
    List.append_nil]

theorem freeze_eq_of_admitted (settled : d.IsAliasSettled) (valid : d.validate.outcome = .ok issues)
    (admitted : ¬ d.IsForbidden issues) :
    d.freeze = ⟨.ok { d with frozen := true }, d.validate.events⟩ := by
  have names : aliasFor d.tableName (.text d.aliasName) = .ok d.aliasName := settled
  rw [Descriptor.freeze, Observed.bind_eq, Observed.bind, valid]
  dsimp only
  rw [if_neg fun strict => admitted (isForbidden_iff.1 strict), names, Observed.lift_ok_bind,
    Observed.outcome_pure, Observed.events_pure, List.append_nil]

theorem isFrozenCopy_frozen (d : Descriptor) : IsFrozenCopy { d with frozen := true } d where
  frozen := rfl
  tableName := rfl
  aliasName := rfl
  columns := rfl
  constraints := rfl
  settings := rfl
  answers := by
    intro query table
    cases query with
    | summary => exact absurd table (by decide)
    | _ => rfl

theorem rejects_invalid (d : Descriptor) (h : ∃ issue ∈ issues, issue.isError = true) :
    Rejects (.invalid d.tableName issues) d issues where
  cause := rfl
  code := by
    cases found : issues.find? Issue.isError with
    | none =>
      obtain ⟨issue, mem, error⟩ := h
      exact absurd error (List.find?_eq_none.1 found issue mem)
    | some first =>
      obtain ⟨error, before, after, rfl, earlier⟩ := List.find?_eq_some_iff_append.1 found
      have harmless : ∀ issue ∈ before, issue.isError = false := fun issue mem => by
        simpa using earlier issue mem
      refine ⟨before, first, after, rfl, harmless, error, ?_⟩
      rw [Fault.code?, found]
      rfl
  details := rfl

end Descriptor

end TableSchema
