import TableSchema.Proofs.Descriptor.Generation

/-!
When validation reports a missing primary key.
-/

namespace TableSchema.Validation

theorem nameTexts_eq_ok {names : List Value} (h : ∀ name ∈ names, ∃ s, name = .text s)
    (place : Nat) : nameTexts place names = .ok (names.map Value.display) := by
  induction names generalizing place with
  | nil => rfl
  | cons name names ih =>
    obtain ⟨s, rfl⟩ := h name List.mem_cons_self
    have others := ih (fun x hx => h x (List.mem_cons_of_mem _ hx)) (place + 1)
    rw [nameTexts, others]
    rfl

theorem noPrimaryKey_not_mem_repeatedValueIssues (column : Value) (earlier : List Value)
    (es : List EnumValue) : .noPrimaryKey ∉ repeatedValueIssues column earlier es := by
  induction es generalizing earlier with
  | nil => exact List.not_mem_nil
  | cons e es ih =>
    rw [repeatedValueIssues, List.mem_append, not_or]
    refine ⟨?_, ih (e.value :: earlier)⟩
    split <;> simp

theorem noPrimaryKey_not_mem_enumIssues (c : Column) : .noPrimaryKey ∉ enumIssues c := by
  unfold enumIssues
  split
  · exact List.not_mem_nil
  · simp
  · exact noPrimaryKey_not_mem_repeatedValueIssues c.name [] _

theorem noPrimaryKey_not_mem_columnIssues (seen : List Value) (columns : List Column) :
    .noPrimaryKey ∉ columnIssues seen columns := by
  induction columns generalizing seen with
  | nil => exact List.not_mem_nil
  | cons c cs ih =>
    rw [columnIssues, List.mem_append, List.mem_append, not_or, not_or]
    refine ⟨⟨?_, noPrimaryKey_not_mem_enumIssues c⟩, ih (c.name :: seen)⟩
    split <;> simp

theorem noPrimaryKey_not_mem_actionIssues (column action : Value) :
    .noPrimaryKey ∉ actionIssues column action := by
  unfold actionIssues
  split <;> simp

theorem noPrimaryKey_not_mem_foreignKeyIssues (columns : List Column) (fk : ForeignKey) :
    .noPrimaryKey ∉ foreignKeyIssues columns fk := by
  rw [foreignKeyIssues, List.mem_append, List.mem_append, not_or, not_or]
  refine ⟨⟨?_, noPrimaryKey_not_mem_actionIssues _ _⟩, noPrimaryKey_not_mem_actionIssues _ _⟩
  split <;> simp

section Issues

variable {columns : List Column}

theorem primaryKeyIssues_eq_ok (named : ∀ c ∈ columns, ∃ s, c.name = .text s) :
    ∃ found, primaryKeyIssues columns = .ok found ∧
      (.noPrimaryKey ∈ found ↔ columns.filter Column.isPrimary = []) := by
  have texts : ∀ name ∈ (columns.filter Column.isPrimary).map Column.name,
      ∃ s, name = .text s := by
    intro name mem
    obtain ⟨c, hc, rfl⟩ := List.mem_map.1 mem
    exact named c (List.mem_filter.1 hc).1
  unfold primaryKeyIssues
  cases primary : columns.filter Column.isPrimary with
  | nil => exact ⟨_, rfl, by simp⟩
  | cons c cs =>
    cases cs with
    | nil => exact ⟨_, rfl, by simp⟩
    | cons c' cs =>
      rw [primary] at texts
      have used := nameTexts_eq_ok texts 0
      refine ⟨[.severalPrimaryKeys c.name.display ((c' :: cs).map fun c => c.name.display)], ?_,
        by simp⟩
      simp only [List.map_cons] at used ⊢
      rw [used]
      simp [bind, Except.bind, pure, Except.pure]

theorem checkLookup_eq_ok_iff (value : Value) :
    value.checkLookup = .ok () ↔ value.changeable? = none := by
  unfold Value.checkLookup
  cases value.changeable? <;> simp

theorem issues_outcome (named : ∀ c ∈ columns, ∃ s, c.name = .text s)
    (constraints : List ForeignKey) :
    ((∃ found, issues columns constraints = .ok found) ↔
      ∀ fk ∈ constraints, fk.localColumn.changeable? = none) ∧
    ∀ found, issues columns constraints = .ok found →
      (.noPrimaryKey ∈ found ↔ columns.filter Column.isPrimary = []) := by
  obtain ⟨keys, primary, missing⟩ := primaryKeyIssues_eq_ok named
  have names : columns.forM (fun c => c.name.checkLookup) = .ok () := by
    refine forM_eq_ok_iff.2 fun c hc => ?_
    obtain ⟨s, text⟩ := named c hc
    rw [text]
    rfl
  have lookups : constraints.forM (fun fk => fk.localColumn.checkLookup) = .ok () ↔
      ∀ fk ∈ constraints, fk.localColumn.changeable? = none := by
    simp only [forM_eq_ok_iff, checkLookup_eq_ok_iff]
  have answer : issues columns constraints = (do
      constraints.forM fun fk => fk.localColumn.checkLookup
      return keys ++ columnIssues [] columns ++
        constraints.flatMap (foreignKeyIssues columns)) := by
    rw [issues, primary, names]
    rfl
  have others : .noPrimaryKey ∉ constraints.flatMap (foreignKeyIssues columns) := by
    rw [List.mem_flatMap]
    rintro ⟨fk, -, mem⟩
    exact noPrimaryKey_not_mem_foreignKeyIssues columns fk mem
  rw [← lookups, answer]
  cases constraints.forM fun fk => fk.localColumn.checkLookup with
  | error fault => simp [bind, Except.bind]
  | ok u =>
    refine ⟨by simp [bind, Except.bind, pure, Except.pure], fun found same => ?_⟩
    obtain rfl := Except.ok.inj same
    rw [List.mem_append, List.mem_append, missing]
    simp [others, noPrimaryKey_not_mem_columnIssues]

end Issues

theorem validate_outcome (settings : Settings) (columns : List Column)
    (constraints : List ForeignKey) :
    (validate settings columns constraints).outcome = issues columns constraints := by
  unfold validate
  cases issues columns constraints <;> rfl

end TableSchema.Validation
