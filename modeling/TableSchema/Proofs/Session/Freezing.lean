import TableSchema.Proofs.Descriptor.FrozenCopy
import TableSchema.Proofs.Session.Invariant

/-!
Freezing in sessions. Whatever a session has come to hold is either copied faithfully into another
slot, or the step ends in a fault that tells the errors found and leaves the descriptor as it is.
-/

namespace TableSchema.Session

variable {s : Session} {source target other : String} {d : Descriptor} {issues : List Issue}

theorem isInvariant_isAliasSettled : IsInvariant Descriptor.IsAliasSettled where
  built := Descriptor.isAliasSettled_of_ofDraft
  extended := fun added settled => settled.extendedBy added
  copied := Descriptor.IsAliasSettled.freeze

theorem step_freeze_eq (held : s.find? source = some d) :
    s.step (.freeze source target) =
      ((fun copy => .summary copy.summary) <$> d.freeze,
        match d.freeze.outcome with
        | .ok copy => s.put target copy
        | .error _ => s.erase target) := by
  change s.freeze source target = _
  unfold freeze
  split
  next absent => exact absurd (held.symm.trans absent) (by simp)
  next found =>
    obtain rfl := Option.some.inj (held.symm.trans found)
    rfl

theorem find?_step_freeze_of_ne (differ : other ≠ target) :
    (s.step (.freeze source target)).2.find? other = s.find? other :=
  find?_freeze_of_not_replaces fun replaces => differ replaces.1.symm

/-- What freezing the descriptor `d` of one slot into another comes to, where validation finds the
given issues. -/
structure FreezesInto (s : Session) (source target : String) (d : Descriptor)
    (issues : List Issue) : Prop where
  /-- Nothing but validation is logged and counted. -/
  observed : (s.step (.freeze source target)).1.events = d.validate.events
  /-- All slots but that of the copy stay as they are, that of the original among them. -/
  untouched : ∀ other, other ≠ target →
    (s.step (.freeze source target)).2.find? other = s.find? other
  rejected : d.IsForbidden issues → ∃ fault,
    (s.step (.freeze source target)).1.outcome = .error fault ∧ d.Rejects fault issues
  copied : ¬ d.IsForbidden issues → ∃ copy,
    (s.step (.freeze source target)).1.outcome = .ok (.summary copy.summary) ∧
      (s.step (.freeze source target)).2.find? target = some copy ∧ copy.IsFrozenCopy d
  /-- Freezing the copy once more gives an equal one. -/
  again : ¬ d.IsForbidden issues → ∀ third,
    ((s.step (.freeze source target)).2.step (.freeze target third)).1.outcome =
        (s.step (.freeze source target)).1.outcome ∧
      ((s.step (.freeze source target)).2.step (.freeze target third)).2.find? third =
        (s.step (.freeze source target)).2.find? target

section Admitted

variable (held : s.find? source = some d) (settled : d.IsAliasSettled)
  (valid : d.validate.outcome = .ok issues) (admitted : ¬ d.IsForbidden issues)

include held settled valid admitted

theorem step_freeze_of_admitted (target : String) :
    s.step (.freeze source target) =
      (⟨.ok (.summary { d with frozen := true }.summary), d.validate.events⟩,
        s.put target { d with frozen := true }) := by
  rw [step_freeze_eq held, Descriptor.freeze_eq_of_admitted settled valid admitted]
  refine Prod.ext ?_ rfl
  exact congrArg (Observed.mk _) (List.append_nil d.validate.events)

theorem find?_step_freeze_of_admitted (target : String) :
    (s.step (.freeze source target)).2.find? target = some { d with frozen := true } := by
  rw [step_freeze_of_admitted held settled valid admitted, find?_put, if_pos rfl]

end Admitted

theorem step_freeze_of_forbidden (held : s.find? source = some d)
    (valid : d.validate.outcome = .ok issues) (forbidden : d.IsForbidden issues)
    (target : String) :
    s.step (.freeze source target) =
      (⟨.error (.invalid d.tableName issues), d.validate.events⟩, s.erase target) := by
  rw [step_freeze_eq held, Descriptor.freeze_eq_of_forbidden valid forbidden]
  rfl

/-- Every descriptor that a session comes to hold is copied faithfully, or turned down for the
errors that validation finds. -/
theorem freeze_faithful (s₀ : Session) (fresh : s₀.slots = []) (steps : List Step)
    (source target : String) (d : Descriptor) (held : (s₀.run steps).2.find? source = some d)
    (issues : List Issue) (valid : d.validate.outcome = .ok issues) :
    (s₀.run steps).2.FreezesInto source target d issues := by
  have settled : d.IsAliasSettled := isInvariant_isAliasSettled.of_find?_run fresh held
  refine ⟨?_, fun other differ => find?_step_freeze_of_ne differ, ?_, ?_, ?_⟩
  · by_cases forbidden : d.IsForbidden issues
    · rw [step_freeze_of_forbidden held valid forbidden]
    · rw [step_freeze_of_admitted held settled valid forbidden]
  · intro forbidden
    refine ⟨_, ?_, Descriptor.rejects_invalid d forbidden.2⟩
    rw [step_freeze_of_forbidden held valid forbidden]
  · intro admitted
    refine ⟨{ d with frozen := true }, ?_,
      find?_step_freeze_of_admitted held settled valid admitted target,
      Descriptor.isFrozenCopy_frozen d⟩
    rw [step_freeze_of_admitted held settled valid admitted]
  · intro admitted third
    have copied := find?_step_freeze_of_admitted held settled valid admitted target
    rw [find?_step_freeze_of_admitted copied settled valid admitted third, copied,
      step_freeze_of_admitted copied settled valid admitted,
      step_freeze_of_admitted held settled valid admitted]
    exact ⟨rfl, rfl⟩

def strictSteps : List Step :=
  [.create "road"
      { tableName := .text "ΟΔΟΣ"
        columns := .list [.record [("name", .text "id"), ("primaryKey", .bool true)]] }
      (some { strictValidation := true }),
   .create "twin"
      { tableName := .text "Twin"
        columns := .list [.record [("name", .text "a")], .record [("name", .text "a")]] }
      (some { strictValidation := true })]

def roadTable : Descriptor where
  tableName := .text "ΟΔΟΣ"
  aliasName := Text.lower "ΟΔΟΣ"
  columns := [{ name := .text "id", primaryKey := .bool true }]
  settings := { strictValidation := true }

def twinTable : Descriptor where
  tableName := .text "Twin"
  aliasName := Text.lower "Twin"
  columns := [{ name := .text "a" }, { name := .text "a" }]
  settings := { strictValidation := true }

theorem freeze_faithful_of_strictSteps :
    (({} : Session).run strictSteps).2.FreezesInto "road" "copy" roadTable [] ∧
      ¬ roadTable.IsForbidden [] ∧
      (({} : Session).run strictSteps).2.FreezesInto "twin" "copy" twinTable
        [.noPrimaryKey, .duplicateColumn (.text "a")] ∧
      twinTable.IsForbidden [.noPrimaryKey, .duplicateColumn (.text "a")] := by
  have road : (({} : Session).run strictSteps).2.find? "road" = some roadTable := by
    rfl
  have twin : (({} : Session).run strictSteps).2.find? "twin" = some twinTable := by
    rfl
  refine ⟨freeze_faithful {} rfl strictSteps "road" "copy" roadTable road [] ?_, by decide,
    freeze_faithful {} rfl strictSteps "twin" "copy" twinTable twin _ ?_, by decide⟩
  · rfl
  · rfl

end TableSchema.Session
