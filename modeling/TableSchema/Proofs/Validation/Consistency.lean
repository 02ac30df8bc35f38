import TableSchema.Proofs.Descriptor.PlainNames
import TableSchema.Proofs.Validation.MissingKey

/-!
What it means that validation finds no error. Where the columns are named by texts, they are then
told apart by their names, one primary key at most is among them, and foreign keys start from them
and name known actions.
-/

namespace TableSchema

theorem Value.same_text_iff (s : String) (value : Value) :
    (Value.text s).same value = true ↔ value = .text s := by
  cases value with
  | text t =>
    rw [same, beq_iff_eq, text.injEq]
    exact eq_comm
  | _ => simp [same, integer?]

namespace Validation

def IsErrorFree (issues : List Issue) : Prop :=
  ∀ issue ∈ issues, issue.isError = false

theorem isErrorFree_append_iff (a b : List Issue) :
    IsErrorFree (a ++ b) ↔ IsErrorFree a ∧ IsErrorFree b :=
  List.forall_mem_append

theorem not_isErrorFree_singleton {issue : Issue} (error : issue.isError = true) :
    ¬ IsErrorFree [issue] := by
  intro clean
  rw [clean issue List.mem_cons_self] at error
  exact absurd error (by decide)

structure IsConsistent (columns : List Column) (constraints : List ForeignKey) : Prop where
  names : (columns.map Column.name).Nodup
  primary : (columns.filter Column.isPrimary).length ≤ 1
  localColumns : ∀ fk ∈ constraints, ∃ c ∈ columns, c.name = fk.localColumn
  actions : ∀ fk ∈ constraints, ForeignKey.IsAction fk.onDelete ∧ ForeignKey.IsAction fk.onUpdate

section Columns

variable {columns : List Column}

theorem length_of_nameTexts {place : Nat} {names : List Value} {texts : List String}
    (h : nameTexts place names = .ok texts) : texts.length = names.length := by
  induction names generalizing place texts with
  | nil =>
    obtain rfl : [] = texts := Except.ok.inj h
    rfl
  | cons name names ih =>
    cases name with
    | text s =>
      rw [nameTexts] at h
      cases rest : nameTexts (place + 1) names with
      | error fault =>
        rw [rest] at h
        exact absurd h (by simp [Functor.map, Except.map])
      | ok others =>
        rw [rest] at h
        obtain rfl : s :: others = texts := Except.ok.inj h
        rw [List.length_cons, List.length_cons, ih rest]
    | _ => exact absurd h (by simp [nameTexts, Value.refuse])

theorem length_primary_le_of_errorFree {found : List Issue}
    (h : primaryKeyIssues columns = .ok found) (clean : IsErrorFree found) :
    (columns.filter Column.isPrimary).length ≤ 1 := by
  unfold primaryKeyIssues at h
  rw [← List.length_map (f := Column.name)]
  split at h
  next none =>
    rw [none]
    exact Nat.zero_le 1
  next one =>
    rw [one]
    exact Nat.le_refl 1
  next names notNone notOne =>
    cases used : nameTexts 0 ((columns.filter Column.isPrimary).map Column.name) with
    | error fault =>
      rw [used] at h
      exact absurd h (by simp [bind, Except.bind])
    | ok texts =>
      have length := length_of_nameTexts used
      rw [used] at h
      cases texts with
      | nil => exact absurd (List.eq_nil_of_length_eq_zero length.symm) notNone
      | cons first others =>
        obtain rfl : [.severalPrimaryKeys first others] = found := Except.ok.inj h
        exact absurd clean (not_isErrorFree_singleton rfl)

theorem nodup_of_errorFree {seen : List Value} (named : ∀ c ∈ columns, ∃ s, c.name = .text s)
    (clean : IsErrorFree (columnIssues seen columns)) :
    (columns.map Column.name).Nodup ∧ ∀ c ∈ columns, c.name ∉ seen := by
  induction columns generalizing seen with
  | nil => exact ⟨List.nodup_nil, by simp⟩
  | cons c cs ih =>
    rw [columnIssues, isErrorFree_append_iff, isErrorFree_append_iff] at clean
    obtain ⟨⟨unrepeated, -⟩, later⟩ := clean
    obtain ⟨distinct, fresh⟩ := ih (fun x hx => named x (List.mem_cons_of_mem c hx)) later
    obtain ⟨s, text⟩ := named c List.mem_cons_self
    have first : c.name ∉ seen := by
      intro before
      have repeated : seen.any c.name.same = true := by
        refine List.any_eq_true.2 ⟨c.name, before, ?_⟩
        rw [text]
        exact (Value.same_text_iff s _).2 rfl
      rw [if_pos repeated] at unrepeated
      exact not_isErrorFree_singleton rfl unrepeated
    refine ⟨List.nodup_cons.2 ⟨?_, distinct⟩, List.forall_mem_cons.2 ⟨first, ?_⟩⟩
    · intro mem
      obtain ⟨x, hx, same⟩ := List.mem_map.1 mem
      exact fresh x hx (same ▸ List.mem_cons_self)
    · exact fun x hx before => fresh x hx (List.mem_cons_of_mem _ before)

end Columns

section ForeignKeys

variable {columns : List Column} {fk : ForeignKey}

theorem isAction_of_errorFree {column action : Value}
    (clean : IsErrorFree (actionIssues column action)) : ForeignKey.IsAction action := by
  unfold actionIssues at clean
  split at clean
  next known =>
    rw [Bool.or_eq_true, Value.isNull_iff, Option.any_eq_true] at known
    rcases known with null | ⟨s, text, mem⟩
    · exact .inl null
    · exact .inr ⟨s, List.contains_iff_mem.1 mem, (Value.text?_eq_some_iff action s).1 text⟩
  next => exact absurd clean (not_isErrorFree_singleton rfl)

theorem localColumn_of_errorFree (named : ∀ c ∈ columns, ∃ s, c.name = .text s)
    (clean : IsErrorFree (foreignKeyIssues columns fk)) :
    ∃ c ∈ columns, c.name = fk.localColumn := by
  rw [foreignKeyIssues, isErrorFree_append_iff, isErrorFree_append_iff] at clean
  obtain ⟨⟨declared, -⟩, -⟩ := clean
  split at declared
  next found =>
    obtain ⟨c, hc, same⟩ := List.any_eq_true.1 found
    obtain ⟨s, text⟩ := named c hc
    rw [text] at same
    exact ⟨c, hc, text.trans ((Value.same_text_iff s _).1 same).symm⟩
  next => exact absurd declared (not_isErrorFree_singleton rfl)

end ForeignKeys

theorem issues_eq_ok {columns : List Column} {constraints : List ForeignKey} {found : List Issue}
    (h : issues columns constraints = .ok found) :
    ∃ keys, primaryKeyIssues columns = .ok keys ∧
      found = keys ++ columnIssues [] columns ++
        constraints.flatMap (foreignKeyIssues columns) := by
  unfold issues at h
  cases primary : primaryKeyIssues columns with
  | error fault =>
    rw [primary] at h
    exact absurd h (by simp [bind, Except.bind])
  | ok keys =>
    rw [primary] at h
    cases names : columns.forM fun c => c.name.checkLookup with
    | error fault =>
      rw [names] at h
      exact absurd h (by simp [bind, Except.bind])
    | ok _ =>
      rw [names] at h
      cases locals : constraints.forM fun fk => fk.localColumn.checkLookup with
      | error fault =>
        rw [locals] at h
        exact absurd h (by simp [bind, Except.bind])
      | ok _ =>
        rw [locals] at h
        exact ⟨keys, rfl, (Except.ok.inj h).symm⟩

theorem isConsistent_of_errorFree {columns : List Column} {constraints : List ForeignKey}
    (named : ∀ c ∈ columns, ∃ s, c.name = .text s) {found : List Issue}
    (h : issues columns constraints = .ok found) (clean : IsErrorFree found) :
    IsConsistent columns constraints := by
  obtain ⟨keys, primary, rfl⟩ := issues_eq_ok h
  rw [isErrorFree_append_iff, isErrorFree_append_iff] at clean
  obtain ⟨⟨cleanKeys, cleanColumns⟩, cleanConstraints⟩ := clean
  have each : ∀ fk ∈ constraints, IsErrorFree (foreignKeyIssues columns fk) :=
    fun fk hfk issue mem => cleanConstraints issue (List.mem_flatMap.2 ⟨fk, hfk, mem⟩)
  refine ⟨(nodup_of_errorFree named cleanColumns).1,
    length_primary_le_of_errorFree primary cleanKeys,
    fun fk hfk => localColumn_of_errorFree named (each fk hfk), fun fk hfk => ?_⟩
  have own := each fk hfk
  rw [foreignKeyIssues, isErrorFree_append_iff, isErrorFree_append_iff] at own
  obtain ⟨⟨-, delete⟩, update⟩ := own
  exact ⟨isAction_of_errorFree delete, isAction_of_errorFree update⟩

end Validation

end TableSchema
