import Mathlib.Data.List.Forall2
import TableSchema.Proofs.Validation.DefectCount

/-!
Validation reports the defects of a table and nothing else: each as often as it is there, those of
the primary key first, then those of the columns, then those of the foreign keys.
-/

namespace TableSchema

namespace Validation

variable {columns columns' : List Column} {constraints constraints' : List ForeignKey}
  {found found' : List Issue}

/-- How many issues of a code the columns and foreign keys give rise to. -/
def defects (columns : List Column) (constraints : List ForeignKey) : Code → Nat
  | .multiplePrimaryKeys => if 1 < (columns.filter Column.isPrimary).length then 1 else 0
  | .noPrimaryKey => if (columns.filter Column.isPrimary).length = 0 then 1 else 0
  | .duplicateColumn => columns.length - (columns.map Column.name).dedup.length
  | .emptyEnum => (columns.filter fun c => c.enumValues = some []).length
  | .duplicateEnumValue => (columns.map Column.repeatedValues).sum
  | .unknownForeignKeyColumn =>
    (constraints.filter fun fk => fk.localColumn ∉ columns.map Column.name).length
  | .invalidForeignKeyAction => (constraints.map fun fk => fk.unknownActions.length).sum
  | _ => 0

section PrimaryKey

/-- There are several primary keys, and one of them has no name. -/
def HasNamelessKey (columns : List Column) : Prop :=
  1 < (columns.filter Column.isPrimary).length ∧
    .null ∈ (columns.filter Column.isPrimary).map Column.name

structure ReportsKeys (columns : List Column) (keys : List Issue) : Prop where
  missing : (columns.filter Column.isPrimary).length = 0 → keys = [.noPrimaryKey]
  single : (columns.filter Column.isPrimary).length = 1 → keys = []
  /-- The one named as used is the one that a descriptor of these columns has for its key. -/
  several : 1 < (columns.filter Column.isPrimary).length → ∃ used others,
    keys = [.severalPrimaryKeys used others] ∧
      (columns.filter Column.isPrimary).map Column.name = (used :: others).map .text ∧
      ∀ d : Descriptor, d.columns = columns → ∀ useAlias,
        d.primaryKey? useAlias = some (if useAlias then d.prefixed used else d.reference used)

theorem nameTexts_of_null {names : List Value}
    (named : ∀ name ∈ names, name = .null ∨ ∃ s, name = .text s) (nameless : .null ∈ names)
    (place : Nat) :
    nameTexts place names = .error (.unfit .null (.joining (place + names.idxOf .null))) := by
  induction names generalizing place with
  | nil => exact absurd nameless List.not_mem_nil
  | cons name names ih =>
    obtain ⟨first, others⟩ := List.forall_mem_cons.1 named
    rcases first with rfl | ⟨s, rfl⟩
    · rw [List.idxOf_cons_self]
      rfl
    · have later : .null ∈ names := by simpa using nameless
      rw [nameTexts, ih others later, List.idxOf_cons_ne names (by simp), Nat.succ_eq_add_one,
        Nat.add_right_comm, Nat.add_assoc]
      rfl

theorem nameTexts_map_text (texts : List String) (place : Nat) :
    nameTexts place (texts.map .text) = .ok texts := by
  induction texts generalizing place with
  | nil => rfl
  | cons s texts ih =>
    rw [List.map_cons, nameTexts, ih]
    rfl

theorem primaryKeyIssues_of_several
    (several : 1 < (columns.filter Column.isPrimary).length) :
    primaryKeyIssues columns = (do
      match ← nameTexts 0 ((columns.filter Column.isPrimary).map Column.name) with
      | [] => return []
      | used :: others => return [.severalPrimaryKeys used others]) := by
  unfold primaryKeyIssues
  split
  next none => simp [List.map_eq_nil_iff.1 none] at several
  next one =>
    have length := congrArg List.length one
    rw [List.length_map, List.length_singleton] at length
    omega
  next => rfl

theorem named_of_comparable (comparable : ∀ c ∈ columns, c.IsComparable) :
    ∀ name ∈ (columns.filter Column.isPrimary).map Column.name,
      name = .null ∨ ∃ s, name = .text s := by
  intro name mem
  obtain ⟨c, hc, rfl⟩ := List.mem_map.1 mem
  exact (comparable c (List.mem_filter.1 hc).1).named

theorem primaryKeyIssues_of_nameless (comparable : ∀ c ∈ columns, c.IsComparable)
    (nameless : HasNamelessKey columns) :
    primaryKeyIssues columns = .error (.unfit .null
      (.joining (((columns.filter Column.isPrimary).map Column.name).idxOf .null))) := by
  have texts := nameTexts_of_null (named_of_comparable comparable) nameless.2 0
  rw [primaryKeyIssues_of_several nameless.1, texts, Nat.zero_add]
  rfl

theorem exists_texts {names : List Value}
    (named : ∀ name ∈ names, name = .null ∨ ∃ s, name = .text s) (nameless : .null ∉ names) :
    ∃ texts : List String, names = texts.map .text := by
  induction names with
  | nil => exact ⟨[], rfl⟩
  | cons name names ih =>
    obtain ⟨first, others⟩ := List.forall_mem_cons.1 named
    rw [List.mem_cons, not_or] at nameless
    obtain ⟨texts, rfl⟩ := ih others nameless.2
    rcases first with rfl | ⟨s, rfl⟩
    · exact absurd rfl nameless.1
    · exact ⟨s :: texts, rfl⟩

theorem primaryKeyIssues_of_named (comparable : ∀ c ∈ columns, c.IsComparable)
    (named : ¬ HasNamelessKey columns) :
    ∃ keys, primaryKeyIssues columns = .ok keys ∧ ReportsKeys columns keys := by
  rcases Nat.lt_trichotomy (columns.filter Column.isPrimary).length 1 with none | one | several
  · have zero : (columns.filter Column.isPrimary).length = 0 := by omega
    refine ⟨[.noPrimaryKey], ?_, fun _ => rfl, fun one => by omega, fun several => by omega⟩
    rw [primaryKeyIssues, List.eq_nil_of_length_eq_zero zero]
    rfl
  · refine ⟨[], ?_, fun none => by omega, fun _ => rfl, fun several => by omega⟩
    obtain ⟨c, only⟩ := List.length_eq_one_iff.1 one
    rw [primaryKeyIssues, only]
    rfl
  · have nameless : .null ∉ (columns.filter Column.isPrimary).map Column.name :=
      fun null => named ⟨several, null⟩
    obtain ⟨texts, names⟩ := exists_texts (named_of_comparable comparable) nameless
    cases texts with
    | nil => simp [List.map_eq_nil_iff.1 names] at several
    | cons used others =>
      refine ⟨[.severalPrimaryKeys used others], ?_, fun none => by omega, fun one => by omega,
        fun _ => ⟨used, others, rfl, names, fun d own useAlias => ?_⟩⟩
      · rw [primaryKeyIssues_of_several several, names, nameTexts_map_text]
        rfl
      · rw [Descriptor.primaryKey?, Descriptor.primaryColumn?, own, ← List.head?_filter]
        cases primary : columns.filter Column.isPrimary with
        | nil => simp [primary] at several
        | cons c cs =>
          rw [primary, List.map_cons, List.map_cons] at names
          simp [(List.cons.inj names).1, Value.display]

theorem tally_keys {keys : List Issue} (reports : ReportsKeys columns keys) (code : Code) :
    tally code keys =
      (if code = .multiplePrimaryKeys then
        if 1 < (columns.filter Column.isPrimary).length then 1 else 0 else 0) +
      (if code = .noPrimaryKey then
        if (columns.filter Column.isPrimary).length = 0 then 1 else 0 else 0) := by
  rcases Nat.lt_trichotomy (columns.filter Column.isPrimary).length 1 with none | one | several
  · have zero : (columns.filter Column.isPrimary).length = 0 := by omega
    rw [reports.missing zero, zero]
    cases code <;> rfl
  · rw [reports.single one, one]
    cases code <;> rfl
  · obtain ⟨used, others, keys, -⟩ := reports.several several
    have nonzero : (columns.filter Column.isPrimary).length ≠ 0 := by omega
    rw [keys, if_pos several, if_neg nonzero]
    cases code <;> rfl

end PrimaryKey

section Total

theorem tally_enumIssues {c : Column} (comparable : c.IsComparable) (code : Code) :
    tally code (enumIssues c) =
      (if code = .emptyEnum then if c.enumValues = some [] then 1 else 0 else 0) +
      (if code = .duplicateEnumValue then c.repeatedValues else 0) := by
  rw [tally, codes_enumIssues comparable, List.count_append, List.count_replicate]
  congr 1
  · by_cases empty : c.enumValues = some []
    · rw [if_pos empty, if_pos empty]
      cases code <;> rfl
    · rw [if_neg empty, if_neg empty, ite_self]
      rfl
  · cases code <;> rfl

theorem tally_foreignKeyIssues (comparable : ∀ c ∈ columns, c.IsComparable) (fk : ForeignKey)
    (code : Code) :
    tally code (foreignKeyIssues columns fk) =
      (if code = .unknownForeignKeyColumn then
        if fk.localColumn ∉ columns.map Column.name then 1 else 0 else 0) +
      (if code = .invalidForeignKeyAction then fk.unknownActions.length else 0) := by
  rw [tally, (reportsForeignKey comparable fk).codes, List.count_append, List.count_replicate]
  congr 1
  · by_cases declared : fk.localColumn ∈ columns.map Column.name
    · rw [if_pos declared, if_neg (not_not_intro declared), ite_self]
      rfl
    · rw [if_neg declared, if_pos declared]
      cases code <;> rfl
  · cases code <;> rfl

theorem sum_indicator {α : Type} (p : α → Prop) [DecidablePred p] (xs : List α) :
    (xs.map fun x => if p x then 1 else 0).sum = (xs.filter p).length := by
  induction xs with
  | nil => rfl
  | cons x xs ih =>
    rw [List.map_cons, List.sum_cons, ih]
    by_cases h : p x <;> simp [h, Nat.add_comm]

theorem repeats_names (comparable : ∀ c ∈ columns, c.IsComparable) :
    repeats Value.same [] (columns.map Column.name) =
      columns.length - (columns.map Column.name).dedup.length := by
  have agree : ∀ a ∈ columns.map Column.name, ∀ b ∈ columns.map Column.name,
      a.same b = true ↔ id a = id b := by
    intro a ha b _
    obtain ⟨c, hc, rfl⟩ := List.mem_map.1 ha
    exact Value.same_name_iff (comparable c hc).named b
  rw [repeats_eq agree, List.map_id, List.length_map]

structure Reports (columns : List Column) (constraints : List ForeignKey) (found : List Issue) :
    Prop where
  parts : ∃ keys own foreign, found = keys ++ own.flatten ++ foreign.flatten ∧
    ReportsKeys columns keys ∧ List.Forall₂ ReportsColumn columns own ∧
    List.Forall₂ (ReportsForeignKey columns) constraints foreign
  counts : ∀ code, tally code found = defects columns constraints code

theorem tally_issues (comparable : ∀ c ∈ columns, c.IsComparable) {keys : List Issue}
    (reports : ReportsKeys columns keys) (constraints : List ForeignKey) (code : Code) :
    tally code (keys ++ columnIssues [] columns ++
      constraints.flatMap (foreignKeyIssues columns)) = defects columns constraints code := by
  have enums : columns.map (fun c => tally code (enumIssues c)) = columns.map fun c =>
      (if code = .emptyEnum then if c.enumValues = some [] then 1 else 0 else 0) +
      (if code = .duplicateEnumValue then c.repeatedValues else 0) :=
    List.map_congr_left fun c hc => tally_enumIssues (comparable c hc) code
  have foreign : constraints.map (fun fk => tally code (foreignKeyIssues columns fk)) =
      constraints.map fun fk =>
        (if code = .unknownForeignKeyColumn then
          if fk.localColumn ∉ columns.map Column.name then 1 else 0 else 0) +
        (if code = .invalidForeignKeyAction then fk.unknownActions.length else 0) :=
    List.map_congr_left fun fk _ => tally_foreignKeyIssues comparable fk code
  rw [tally_append, tally_append, tally_keys reports, tally_columnIssues, tally_flatMap, enums,
    foreign, repeats_names comparable]
  cases code with
  | emptyEnum => simp [defects, sum_indicator]
  | unknownForeignKeyColumn => simp [defects, sum_indicator]
  | _ => simp [defects]

theorem reports_of_issues (comparable : ∀ c ∈ columns, c.IsComparable)
    (named : ¬ HasNamelessKey columns) (h : issues columns constraints = .ok found) :
    Reports columns constraints found := by
  obtain ⟨keys, primary, reports⟩ := primaryKeyIssues_of_named comparable named
  obtain ⟨keys', primary', rfl⟩ := issues_eq_ok h
  obtain rfl : keys = keys' := Except.ok.inj (primary.symm.trans primary')
  obtain ⟨own, split, columnwise⟩ := exists_columnParts comparable []
  refine ⟨⟨keys, own, constraints.map (foreignKeyIssues columns), ?_, reports, columnwise, ?_⟩,
    tally_issues comparable reports constraints⟩
  · rw [split, List.flatMap_def]
  · rw [List.forall₂_map_right_iff, List.forall₂_same]
    exact fun fk _ => reportsForeignKey comparable fk

end Total

section Rearrangement

structure Rearranges (c c' : Column) : Prop where
  name : c.name = c'.name
  primary : c.isPrimary = c'.isPrimary
  isEnum : c.enumValues.isSome = c'.enumValues.isSome
  values : (c.enumValues.getD []).Perm (c'.enumValues.getD [])

/-- The same columns in any order, with the enum values of each in any order. -/
def Rearranged (columns columns' : List Column) : Prop :=
  ∃ ordered, columns.Perm ordered ∧ List.Forall₂ Rearranges ordered columns'

theorem Rearranges.perm_values {c c' : Column} (h : Rearranges c c') :
    c.values.Perm c'.values :=
  h.values.map EnumValue.value

theorem enumValues_eq_some_nil_iff (c : Column) :
    c.enumValues = some [] ↔ c.enumValues.isSome = true ∧ c.enumValues.getD [] = [] := by
  cases c.enumValues <;> simp

theorem Rearranges.empty_iff {c c' : Column} (h : Rearranges c c') :
    c.enumValues = some [] ↔ c'.enumValues = some [] := by
  rw [enumValues_eq_some_nil_iff, enumValues_eq_some_nil_iff, h.isEnum, ← List.perm_nil,
    h.values.congr_left, List.perm_nil]

theorem Rearranges.isComparable {c c' : Column} (h : Rearranges c c')
    (comparable : c.IsComparable) : c'.IsComparable where
  named := h.name ▸ comparable.named
  values := by
    intro es held e he
    refine comparable.of_mem_values e.value (h.perm_values.mem_iff.2 ?_)
    rw [Column.values, held]
    exact List.mem_map_of_mem he

theorem Rearranges.repeatedValues_eq {c c' : Column} (h : Rearranges c c')
    (comparable : c.IsComparable) : c.repeatedValues = c'.repeatedValues := by
  have equal := Value.repeats_same_of_perm comparable.of_mem_values h.perm_values
  rw [Value.repeats_same_eq comparable.of_mem_values,
    Value.repeats_same_eq (h.isComparable comparable).of_mem_values] at equal
  exact equal

structure LooksLike (columns columns' : List Column) : Prop where
  names : (columns.map Column.name).Perm (columns'.map Column.name)
  keys : ((columns.filter Column.isPrimary).map Column.name).Perm
    ((columns'.filter Column.isPrimary).map Column.name)
  empty : (columns.filter fun c => c.enumValues = some []).length =
    (columns'.filter fun c => c.enumValues = some []).length
  repeated : (columns.map Column.repeatedValues).sum = (columns'.map Column.repeatedValues).sum

theorem looksLike_of_perm (perm : columns.Perm columns') : LooksLike columns columns' where
  names := perm.map Column.name
  keys := (perm.filter Column.isPrimary).map Column.name
  empty := (perm.filter _).length_eq
  repeated := (perm.map Column.repeatedValues).sum_eq

theorem looksLike_of_forall₂ (comparable : ∀ c ∈ columns, c.IsComparable)
    (rearranged : List.Forall₂ Rearranges columns columns') : LooksLike columns columns' := by
  induction rearranged with
  | nil => exact ⟨.nil, .nil, rfl, rfl⟩
  | @cons c c' cs cs' first others ih =>
    obtain ⟨own, rest⟩ := List.forall_mem_cons.1 comparable
    obtain ⟨names, keys, empty, repeated⟩ := ih rest
    refine ⟨?_, ?_, ?_, ?_⟩
    · rw [List.map_cons, List.map_cons, first.name]
      exact names.cons _
    · by_cases primary : c.isPrimary = true
      · rw [List.filter_cons_of_pos primary, List.filter_cons_of_pos (first.primary ▸ primary),
          List.map_cons, List.map_cons, first.name]
        exact keys.cons _
      · rw [List.filter_cons_of_neg primary, List.filter_cons_of_neg (first.primary ▸ primary)]
        exact keys
    · by_cases void : c.enumValues = some []
      · have void' := first.empty_iff.1 void
        simp [void, void', empty]
      · have void' := mt first.empty_iff.2 void
        simp [void, void', empty]
    · rw [List.map_cons, List.map_cons, List.sum_cons, List.sum_cons, repeated,
        first.repeatedValues_eq own]

theorem LooksLike.trans {columns'' : List Column} (h : LooksLike columns columns')
    (h' : LooksLike columns' columns'') : LooksLike columns columns'' where
  names := h.names.trans h'.names
  keys := h.keys.trans h'.keys
  empty := h.empty.trans h'.empty
  repeated := h.repeated.trans h'.repeated

theorem Rearranged.looksLike (comparable : ∀ c ∈ columns, c.IsComparable)
    (rearranged : Rearranged columns columns') : LooksLike columns columns' := by
  obtain ⟨ordered, perm, forall₂⟩ := rearranged
  have comparable' : ∀ c ∈ ordered, c.IsComparable := fun c hc => comparable c (perm.mem_iff.2 hc)
  exact (looksLike_of_perm perm).trans (looksLike_of_forall₂ comparable' forall₂)

theorem Rearranged.isComparable (comparable : ∀ c ∈ columns, c.IsComparable)
    (rearranged : Rearranged columns columns') : ∀ c ∈ columns', c.IsComparable := by
  obtain ⟨ordered, perm, forall₂⟩ := rearranged
  have comparable' : ∀ c ∈ ordered, c.IsComparable := fun c hc => comparable c (perm.mem_iff.2 hc)
  clear perm
  induction forall₂ with
  | nil => simp
  | cons first others ih =>
    obtain ⟨own, rest⟩ := List.forall_mem_cons.1 comparable'
    exact List.forall_mem_cons.2 ⟨first.isComparable own, ih rest⟩

theorem LooksLike.hasNamelessKey_iff (h : LooksLike columns columns') :
    HasNamelessKey columns' ↔ HasNamelessKey columns := by
  have length := h.keys.length_eq
  rw [List.length_map, List.length_map] at length
  rw [HasNamelessKey, HasNamelessKey, length, h.keys.mem_iff]

theorem LooksLike.defects_eq (h : LooksLike columns columns')
    (perm : constraints.Perm constraints') (code : Code) :
    defects columns' constraints' code = defects columns constraints code := by
  have keys := h.keys.length_eq
  have names := h.names.length_eq
  rw [List.length_map, List.length_map] at keys names
  cases code with
  | multiplePrimaryKeys => rw [defects, defects, keys]
  | noPrimaryKey => rw [defects, defects, keys]
  | duplicateColumn => rw [defects, defects, names, h.names.dedup.length_eq]
  | emptyEnum => exact h.empty.symm
  | duplicateEnumValue => exact h.repeated.symm
  | unknownForeignKeyColumn =>
    rw [defects, defects]
    simp only [h.names.mem_iff]
    exact (perm.filter _).length_eq.symm
  | invalidForeignKeyAction => exact (perm.map _).sum_eq.symm
  | _ => rfl

end Rearrangement

section Outcome

theorem issues_of_nameless (comparable : ∀ c ∈ columns, c.IsComparable)
    (nameless : HasNamelessKey columns) (constraints : List ForeignKey) :
    issues columns constraints = .error (.unfit .null
      (.joining (((columns.filter Column.isPrimary).map Column.name).idxOf .null))) := by
  rw [issues, primaryKeyIssues_of_nameless comparable nameless]
  rfl

theorem lookups_outcome (constraints : List ForeignKey) :
    constraints.forM (fun fk => fk.localColumn.checkLookup) = .ok () ∨
      ∃ kind, constraints.forM (fun fk => fk.localColumn.checkLookup) =
        .error (.unfit kind .lookup) := by
  induction constraints with
  | nil => exact .inl rfl
  | cons fk fks ih =>
    rw [List.forM_eq_forM] at ih ⊢
    rw [List.forM_cons, Value.checkLookup]
    cases fk.localColumn.changeable? with
    | none => exact ih
    | some kind => exact .inr ⟨kind, rfl⟩

theorem issues_of_named (comparable : ∀ c ∈ columns, c.IsComparable)
    (named : ¬ HasNamelessKey columns) (constraints : List ForeignKey) :
    ∃ found, issues columns constraints = (do
      constraints.forM fun fk => fk.localColumn.checkLookup
      return found) := by
  obtain ⟨keys, primary, -⟩ := primaryKeyIssues_of_named comparable named
  have names : columns.forM (fun c => c.name.checkLookup) = .ok () := by
    refine forM_eq_ok_iff.2 fun c hc => ?_
    rcases (comparable c hc).named with null | ⟨s, text⟩
    · rw [null]
      rfl
    · rw [text]
      rfl
  refine ⟨keys ++ columnIssues [] columns ++ constraints.flatMap (foreignKeyIssues columns), ?_⟩
  rw [issues, primary, names]
  rfl

theorem exists_issues_iff (comparable : ∀ c ∈ columns, c.IsComparable)
    (constraints : List ForeignKey) :
    (∃ found, issues columns constraints = .ok found) ↔
      ¬ HasNamelessKey columns ∧ ∀ fk ∈ constraints, fk.localColumn.changeable? = none := by
  have lookups : constraints.forM (fun fk => fk.localColumn.checkLookup) = .ok () ↔
      ∀ fk ∈ constraints, fk.localColumn.changeable? = none := by
    simp only [forM_eq_ok_iff, checkLookup_eq_ok_iff]
  by_cases nameless : HasNamelessKey columns
  · simp [issues_of_nameless comparable nameless, nameless]
  · obtain ⟨found, answer⟩ := issues_of_named comparable nameless constraints
    rw [answer, ← lookups]
    cases constraints.forM fun fk => fk.localColumn.checkLookup <;>
      simp [nameless, bind, Except.bind, pure, Except.pure]

theorem validate_of_error {fault : Fault} (h : issues columns constraints = .error fault)
    (settings : Settings) : validate settings columns constraints = ⟨.error fault, []⟩ := by
  rw [validate, h]
  rfl

theorem validate_of_ok (h : issues columns constraints = .ok found) (settings : Settings) :
    validate settings columns constraints = ⟨.ok found, found.flatMap (events settings)⟩ := by
  rw [validate, h, Observed.lift_ok_bind, Observed.emit_bind, Observed.events_pure,
    List.append_nil]
  rfl

end Outcome

structure ReportsDefects (settings : Settings) (columns : List Column)
    (constraints : List ForeignKey) : Prop where
  /-- With several primary keys, one without a name among them, the names cannot be listed, and
  nothing is logged or counted. -/
  refused : HasNamelessKey columns → validate settings columns constraints =
    ⟨.error (.unfit .null (.joining
      (((columns.filter Column.isPrimary).map Column.name).idxOf .null))), []⟩
  /-- What stands for a local column and can change cannot be looked up. -/
  unreadable : ¬ HasNamelessKey columns →
    (∃ fk ∈ constraints, fk.localColumn.changeable? ≠ none) →
    ∃ kind, validate settings columns constraints = ⟨.error (.unfit kind .lookup), []⟩
  /-- Otherwise the defects are reported, each logged and counted as it is reported. How many
  there are of each code does not depend on any order. -/
  answered : ¬ HasNamelessKey columns →
    (∀ fk ∈ constraints, fk.localColumn.changeable? = none) →
    ∃ found, validate settings columns constraints =
        ⟨.ok found, found.flatMap (events settings)⟩ ∧
      Reports columns constraints found ∧
      ∀ columns' constraints', Rearranged columns columns' → constraints.Perm constraints' →
        ∃ found', (validate settings columns' constraints').outcome = .ok found' ∧
          (found'.map Issue.code).Perm (found.map Issue.code)

theorem reports_defects (settings : Settings) (columns : List Column)
    (comparable : ∀ c ∈ columns, c.IsComparable) (constraints : List ForeignKey) :
    ReportsDefects settings columns constraints where
  refused := fun nameless => validate_of_error (issues_of_nameless comparable nameless _) settings
  unreadable := by
    rintro named ⟨fk, hfk, changeable⟩
    obtain ⟨found, answer⟩ := issues_of_named comparable named constraints
    rcases lookups_outcome constraints with lookups | ⟨kind, lookups⟩
    · rw [forM_eq_ok_iff] at lookups
      exact absurd ((checkLookup_eq_ok_iff _).1 (lookups fk hfk)) changeable
    · rw [lookups] at answer
      exact ⟨kind, validate_of_error answer settings⟩
  answered := by
    intro named lookups
    obtain ⟨found, answer⟩ := (exists_issues_iff comparable constraints).2 ⟨named, lookups⟩
    have reports := reports_of_issues comparable named answer
    refine ⟨found, validate_of_ok answer settings, reports, ?_⟩
    intro columns' constraints' rearranged perm
    have comparable' := rearranged.isComparable comparable
    have alike := rearranged.looksLike comparable
    have named' : ¬ HasNamelessKey columns' := mt alike.hasNamelessKey_iff.1 named
    have lookups' : ∀ fk ∈ constraints', fk.localColumn.changeable? = none :=
      fun fk hfk => lookups fk (perm.mem_iff.2 hfk)
    obtain ⟨found', answer'⟩ := (exists_issues_iff comparable' constraints').2 ⟨named', lookups'⟩
    have reports' := reports_of_issues comparable' named' answer'
    refine ⟨found', (validate_outcome settings columns' constraints').trans answer', ?_⟩
    refine List.perm_iff_count.2 fun code => ?_
    calc tally code found' = defects columns' constraints' code := reports'.counts code
      _ = defects columns constraints code := alike.defects_eq perm code
      _ = tally code found := (reports.counts code).symm

def flawedColumns : List Column :=
  [{ name := .text "id", primaryKey := .bool true, enumValues := some [] },
   { name := .text "state", primaryKey := .int 1
     enumValues := some
      [⟨.int 0, .null⟩, ⟨.text "0", .null⟩, ⟨.bool false, .null⟩,
       ⟨.float (.finite true 0), .null⟩] },
   { name := .text "id" }, { name := .null }]

def flawedConstraints : List ForeignKey :=
  [{ localColumn := .text "id"
     referencedTable := .text "People"
     referencedColumn := .text "id"
     onDelete := .text "cascade" },
   { localColumn := .text "owner"
     referencedTable := .text "People"
     referencedColumn := .text "id"
     onUpdate := .text "CASCADE" }]

theorem reports_defects_of_flawedColumns :
    ∃ found, validate {} flawedColumns flawedConstraints =
        ⟨.ok found, found.flatMap (events {})⟩ ∧
      tally .multiplePrimaryKeys found = 1 ∧ tally .duplicateColumn found = 1 ∧
      tally .emptyEnum found = 1 ∧ tally .duplicateEnumValue found = 2 ∧
      tally .unknownForeignKeyColumn found = 1 ∧ tally .invalidForeignKeyAction found = 1 := by
  have comparable : ∀ c ∈ flawedColumns, c.IsComparable := by
    intro c hc
    simp only [flawedColumns, List.mem_cons, List.not_mem_nil, or_false] at hc
    rcases hc with rfl | rfl | rfl | rfl
    · exact ⟨.inr ⟨_, rfl⟩, by simp⟩
    · exact ⟨.inr ⟨_, rfl⟩, by simp [Value.IsComparable]⟩
    · exact ⟨.inr ⟨_, rfl⟩, by simp⟩
    · exact ⟨.inl rfl, by simp⟩
  have named : ¬ HasNamelessKey flawedColumns := fun nameless =>
    absurd nameless.2 (by decide)
  have lookups : ∀ fk ∈ flawedConstraints, fk.localColumn.changeable? = none := by
    intro fk hfk
    simp only [flawedConstraints, List.mem_cons, List.not_mem_nil, or_false] at hfk
    rcases hfk with rfl | rfl <;> rfl
  obtain ⟨found, answer, reports, -⟩ :=
    (reports_defects {} flawedColumns comparable flawedConstraints).answered named lookups
  refine ⟨found, answer, ?_⟩
  simp only [reports.counts]
  decide +kernel

end Validation

end TableSchema
