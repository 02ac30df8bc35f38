import TableSchema.Proofs.Descriptor.DistinctColumns
import TableSchema.Proofs.Session.Invariant

/-!
What strict validation guarantees of everything that is frozen, however a session goes on: its
columns and foreign keys fit together, so that its inserts and updates name each column once.
-/

namespace TableSchema

open Validation (IsConsistent IsErrorFree)

namespace Descriptor

variable {d copy : Descriptor}

def IsVetted (d : Descriptor) : Prop :=
  d.frozen = true → d.settings.strictValidation = true →
    ∃ issues, d.validate.outcome = .ok issues ∧ IsErrorFree issues

theorem IsVetted.extendedBy (vetted : d.IsVetted) (added : (m : Member) → List m.Item) :
    (d.extendedBy added).IsVetted := by
  cases frozen : d.frozen with
  | true => rwa [extendedBy_of_frozen added frozen]
  | false =>
    rw [extendedBy_of_not_frozen added frozen]
    intro other
    exact absurd (frozen.symm.trans other) (by simp)

theorem isVetted_of_freeze (h : d.freeze.outcome = .ok copy) : copy.IsVetted := by
  obtain ⟨issues, aliasName, found, admitted, -, rfl⟩ := freeze_eq_ok h
  intro _ strict
  refine ⟨issues, found, fun issue mem => ?_⟩
  have strict' : d.settings.strictValidation = true := strict
  rw [strict', Bool.true_and, List.any_eq_false] at admitted
  simpa using admitted issue mem

theorem IsVetted.isConsistent (vetted : d.IsVetted) (frozen : d.frozen = true)
    (strict : d.settings.strictValidation = true)
    (named : ∀ c ∈ d.columns, ∃ s, c.name = .text s) : IsConsistent d.columns d.constraints := by
  obtain ⟨issues, found, clean⟩ := vetted frozen strict
  rw [validate, Validation.validate_outcome] at found
  exact Validation.isConsistent_of_errorFree named found clean

end Descriptor

namespace Session

theorem isInvariant_isVetted : IsInvariant Descriptor.IsVetted where
  built := by
    intro settings draft d built frozen
    obtain ⟨unfrozen, -⟩ := Descriptor.ofDraft_eq_ok built
    exact absurd (unfrozen.symm.trans frozen) (by simp)
  extended := fun added vetted => vetted.extendedBy added
  copied := fun _ => Descriptor.isVetted_of_freeze

/-- Whenever a session holds a frozen descriptor under strict validation, its columns and foreign
keys fit together, no column is assigned or filled twice, and no update assigns its own key. -/
theorem strictly_frozen_statements (s₀ : Session) (fresh : s₀.slots = []) (steps : List Step)
    (slot : String) (d : Descriptor) (held : (s₀.run steps).2.find? slot = some d)
    (frozen : d.frozen = true) (strict : d.settings.strictValidation = true)
    (named : ∀ c ∈ d.columns, ∃ s, c.name = .text s) :
    IsConsistent d.columns d.constraints ∧
      ∀ data : Value, data.IsKeySet →
        (∃ names key?, d.IsKeyedUpdate data names key?) ∧
          ∃ names, d.IsDistinctInsert data names := by
  have vetted : d.IsVetted := isInvariant_isVetted.of_find?_run fresh held
  have consistent := vetted.isConsistent frozen strict named
  refine ⟨consistent, fun data keys => ⟨?_, ?_⟩⟩
  · exact ⟨_, _, Descriptor.isKeyedUpdate named consistent keys⟩
  · exact ⟨_, Descriptor.isDistinctInsert named consistent keys⟩

def orderSteps : List Step :=
  [.create "order"
      { tableName := .text "Orders"
        columns := .list
          [.record [("name", .text "id"), ("primary_key", .bool true)],
           .record [("name", .text "buyer")]]
        constraints := .list
          [.record [("localColumn", .text "buyer"), ("referencedTable", .text "People"),
            ("referencedColumn", .text "id"), ("onDelete", .text "CASCADE")]] }
      (some { strictValidation := true }),
   .freeze "order" "final",
   .addColumns "final" (.record [("name", .text "id")]),
   .addColumns "order" (.record [("name", .text "id")]),
   .freeze "order" "second"]

def orderTable : Descriptor where
  tableName := .text "Orders"
  aliasName := Text.lower (Text.lower "Orders")
  columns := [{ name := .text "id", primaryKey := .bool true }, { name := .text "buyer" }]
  constraints :=
    [{ localColumn := .text "buyer"
       referencedTable := .text "People"
       referencedColumn := .text "id"
       onDelete := .text "CASCADE" }]
  settings := { strictValidation := true }
  frozen := true

theorem strictly_frozen_statements_of_orderSteps :
    (({} : Session).run orderSteps).2.find? "final" = some orderTable ∧
      (({} : Session).run orderSteps).2.find? "second" = none ∧
      IsConsistent orderTable.columns orderTable.constraints ∧
      ∃ names, orderTable.IsKeyedUpdate (.record [("buyer", .int 1), ("id", .int 2)]) names
        (some "id") := by
  have held : (({} : Session).run orderSteps).2.find? "final" = some orderTable := by
    rfl
  have named : ∀ c ∈ orderTable.columns, ∃ s, c.name = .text s := by
    intro c hc
    simp only [orderTable, List.mem_cons, List.not_mem_nil, or_false] at hc
    rcases hc with rfl | rfl
    · exact ⟨"id", rfl⟩
    · exact ⟨"buyer", rfl⟩
  obtain ⟨consistent, statements⟩ :=
    strictly_frozen_statements {} rfl orderSteps "final" orderTable held rfl rfl named
  refine ⟨held, by rfl, consistent, ?_⟩
  obtain ⟨names, key?, update⟩ :=
    (statements (.record [("buyer", .int 1), ("id", .int 2)]) (Value.isKeySet_record _)).1
  obtain rfl : key? = some "id" :=
    (update.matched "id").2 ⟨_, List.mem_cons_self, rfl, rfl⟩
  exact ⟨names, update⟩

end Session

end TableSchema
