import TableSchema.Descriptor.Basic

/-!
What adding parts to a descriptor comes to: those before the first part that cannot be read are
appended, and a frozen descriptor stays as it is.
-/

namespace TableSchema

section Reading

variable {α β : Type} (read : α → Except Fault β)

/-- The items before the first that cannot be read. -/
def readable (items : List α) : List α :=
  items.takeWhile fun a => (read a).isOk

/-- What the items before the first that cannot be read are read as. -/
def beforeFault (items : List α) : List β :=
  (readable read items).filterMap fun a => (read a).toOption

def firstFault (items : List α) : Except Fault Unit :=
  items.forM fun a => (fun _ => ()) <$> read a

theorem beforeFault_cons (a : α) (items : List α) :
    beforeFault read (a :: items) =
      match read a with
      | .ok b => b :: beforeFault read items
      | .error _ => [] := by
  cases answer : read a <;>
    simp [beforeFault, readable, answer, Except.isOk, Except.toBool, Except.toOption]

theorem firstFault_cons (a : α) (items : List α) :
    firstFault read (a :: items) = read a >>= fun _ => firstFault read items := by
  rw [firstFault, List.forM_eq_forM, List.forM_cons]
  cases read a <;> rfl

theorem readUpToFault_eq (items : List α) :
    Descriptor.readUpToFault read items = (beforeFault read items, firstFault read items) := by
  induction items with
  | nil => rfl
  | cons a items ih =>
    rw [Descriptor.readUpToFault, beforeFault_cons, firstFault_cons, ih]
    cases read a <;> rfl

theorem beforeFault_eq_flatMap (items : List α) :
    beforeFault read items = (readable read items).flatMap fun a => beforeFault read [a] := by
  induction items with
  | nil => rfl
  | cons a items ih =>
    rw [beforeFault_cons, readable, List.takeWhile_cons]
    cases answer : read a with
    | ok b =>
      have alone : beforeFault read [a] = [b] := by
        rw [beforeFault_cons, answer]
        rfl
      have kept : (Except.ok b : Except Fault β).isOk = true := rfl
      rw [ih, if_pos kept, List.flatMap_cons, alone]
      rfl
    | error fault => rfl

theorem mapM_eq_ok_iff {items : List α} {results : List β} :
    items.mapM read = .ok results ↔ items.map read = results.map .ok := by
  induction items generalizing results with
  | nil => cases results <;> simp [pure, Except.pure]
  | cons a items ih =>
    rw [List.mapM_cons, List.map_cons]
    cases answer : read a with
    | error fault => cases results <;> simp [bind, Except.bind]
    | ok b =>
      cases results with
      | nil => cases others : items.mapM read <;> simp [bind, Except.bind, pure, Except.pure]
      | cons c results =>
        rw [List.map_cons, List.cons.injEq, ← ih]
        cases others : items.mapM read <;> simp [bind, Except.bind, pure, Except.pure]

end Reading

def Member.held : (m : Member) → Descriptor → List m.Item
  | column, d => d.columns
  | constraint, d => d.constraints

namespace Descriptor

def extendedBy (d : Descriptor) (added : (m : Member) → List m.Item) : Descriptor :=
  if d.frozen then d
  else { d with
    columns := d.columns ++ added .column
    constraints := d.constraints ++ added .constraint }

section Extension

variable {d : Descriptor} (added : (m : Member) → List m.Item)

theorem extendedBy_of_frozen (h : d.frozen = true) : d.extendedBy added = d :=
  if_pos h

theorem extendedBy_of_not_frozen (h : d.frozen = false) :
    d.extendedBy added =
      { d with
        columns := d.columns ++ added .column
        constraints := d.constraints ++ added .constraint } :=
  if_neg (by simp [h])

theorem held_extendedBy (h : d.frozen = false) (m : Member) :
    m.held (d.extendedBy added) = m.held d ++ added m := by
  rw [extendedBy_of_not_frozen added h]
  cases m <;> rfl

theorem extendedBy_nil (d : Descriptor) : d.extendedBy (fun _ => []) = d := by
  cases frozen : d.frozen with
  | true => exact extendedBy_of_frozen _ frozen
  | false => rw [extendedBy_of_not_frozen _ frozen, List.append_nil, List.append_nil]

theorem extendedBy_extendedBy (d : Descriptor) (added added' : (m : Member) → List m.Item) :
    (d.extendedBy added).extendedBy added' = d.extendedBy fun m => added m ++ added' m := by
  cases frozen : d.frozen with
  | true =>
    rw [extendedBy_of_frozen _ frozen, extendedBy_of_frozen _ frozen,
      extendedBy_of_frozen _ frozen]
  | false =>
    rw [extendedBy_of_not_frozen _ frozen, extendedBy_of_not_frozen _ frozen,
      extendedBy_of_not_frozen _ (by exact frozen), List.append_assoc, List.append_assoc]

theorem tableName_extendedBy (d : Descriptor) :
    (d.extendedBy added).tableName = d.tableName := by
  unfold extendedBy
  split <;> rfl

theorem settings_extendedBy (d : Descriptor) : (d.extendedBy added).settings = d.settings := by
  unfold extendedBy
  split <;> rfl

variable {added}

theorem append_eq_extendedBy (h : d.frozen = false) {m : Member} {items : List m.Item}
    (own : added m = items) (others : ∀ other, other ≠ m → added other = []) :
    d.append m items = d.extendedBy added := by
  subst own
  rw [extendedBy_of_not_frozen added h]
  cases m with
  | column => rw [others .constraint (by decide), List.append_nil, append]
  | constraint => rw [others .column (by decide), List.append_nil, append]

/-- What one call adds are the items before the first that cannot be read. -/
theorem add_eq (d : Descriptor) (m : Member) (items : List Value)
    (own : added m = beforeFault m.read items) (others : ∀ other, other ≠ m → added other = []) :
    d.add m items =
      (d.extendedBy added, if d.frozen then .error (.frozen d.tableName)
        else firstFault m.read items) := by
  unfold add
  cases frozen : d.frozen with
  | true => rw [if_pos rfl, if_pos rfl, extendedBy_of_frozen added frozen]
  | false =>
    rw [if_neg Bool.false_ne_true, if_neg Bool.false_ne_true, readUpToFault_eq,
      ← append_eq_extendedBy frozen own others]

end Extension

section Origin

variable {d copy : Descriptor}

theorem readAll_eq_ok_iff {α : Type} {read : Value → Except Fault α} {given : Value}
    {parts : List α} :
    readAll read given = .ok parts ↔
      ∃ items, given.elements = .ok items ∧ items.map read = parts.map .ok := by
  unfold readAll
  cases given.elements with
  | error fault => simp [bind, Except.bind]
  | ok items =>
    simp only [Except.ok.injEq, exists_eq_left', ← mapM_eq_ok_iff]
    rfl

theorem ofDraft_eq_ok {settings : Settings} {draft : Draft} (h : ofDraft settings draft = .ok d) :
    d.frozen = false ∧ d.tableName = draft.tableName ∧
      aliasFor draft.tableName draft.aliasName = .ok d.aliasName ∧
      readAll Column.ofValue (draft.columns.orElse (.list [])) = .ok d.columns ∧
      readAll ForeignKey.ofValue (draft.constraints.orElse (.list [])) = .ok d.constraints := by
  unfold ofDraft at h
  cases names : aliasFor draft.tableName draft.aliasName with
  | error fault => simp [names, bind, Except.bind] at h
  | ok aliasName =>
    cases columns : readAll Column.ofValue (draft.columns.orElse (.list [])) with
    | error fault => simp [names, columns, bind, Except.bind] at h
    | ok cs =>
      cases constraints : readAll ForeignKey.ofValue (draft.constraints.orElse (.list [])) with
      | error fault => simp [names, columns, constraints, bind, Except.bind] at h
      | ok fks =>
        rw [names, columns, constraints] at h
        obtain rfl := Except.ok.inj h
        exact ⟨rfl, rfl, rfl, rfl, rfl⟩

theorem ofDraft_settings (settings settings' : Settings) (draft : Draft) :
    ofDraft settings' draft =
      (fun d => { d with settings := settings' }) <$> ofDraft settings draft := by
  unfold ofDraft
  cases aliasFor draft.tableName draft.aliasName with
  | error fault => rfl
  | ok aliasName =>
    cases readAll Column.ofValue (draft.columns.orElse (.list [])) with
    | error fault => rfl
    | ok columns =>
      cases readAll ForeignKey.ofValue (draft.constraints.orElse (.list [])) with
      | error fault => rfl
      | ok constraints => rfl

theorem settings_of_ofDraft {settings : Settings} {draft : Draft}
    (built : ofDraft settings draft = .ok d) : d.settings = settings := by
  have same := ofDraft_settings settings settings draft
  rw [built] at same
  exact congrArg Descriptor.settings (Except.ok.inj same)

theorem freeze_eq_ok (h : d.freeze.outcome = .ok copy) :
    ∃ issues aliasName, d.validate.outcome = .ok issues ∧
      (d.settings.strictValidation && issues.any Issue.isError) = false ∧
      aliasFor d.tableName (.text d.aliasName) = .ok aliasName ∧
      copy = { d with aliasName, frozen := true } := by
  unfold freeze at h
  rw [Observed.bind_eq, Observed.bind] at h
  cases found : d.validate.outcome with
  | error fault => simp [found] at h
  | ok issues =>
    rw [found] at h
    dsimp only at h
    split at h
    next => simp at h
    next admitted =>
      cases names : aliasFor d.tableName (.text d.aliasName) with
      | error fault =>
        rw [names] at h
        have refused : Except.error fault = Except.ok copy := h
        simp at refused
      | ok aliasName =>
        rw [names] at h
        obtain rfl := Except.ok.inj h
        exact ⟨issues, aliasName, rfl, by simpa using admitted, rfl, rfl⟩

end Origin

end Descriptor

end TableSchema
