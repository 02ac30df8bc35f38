import TableSchema.Proofs.Validation.KnownOperator

/-!
Clauses put together of clauses. The conditions of a list of filters are those of its parts in turn,
however the list is cut and in whichever form a filter is given, and an entry that names no column
fails the whole of it without a trace.
-/

namespace TableSchema

namespace Filter

variable {x : Value} {f : Filter} {xs ys : List Value} {fs gs : List Filter} {r : Record}

theorem ofRecord_toRecord (f : Filter) : ofRecord f.toRecord = checked f := by
  simp [ofRecord, toRecord, Record.pick, Record.pick?_cons, Record.get?_cons]

theorem exists_describes (h : ofValue x = .ok f) :
    ∃ r, Describes x r ∧ NamesColumn r ∧ described r = f := by
  have named (r : Record) (read : ofRecord r = .ok f) : NamesColumn r ∧ described r = f := by
    obtain ⟨same, column⟩ := (checked_eq_ok_iff _ _).1 read
    exact ⟨column, same⟩
  cases x with
  | record r => exact ⟨r, .mapping r, named r h⟩
  | part part fields =>
    cases part with
    | filter =>
      cases known : Record.checkPart fields .filter with
      | error fault => simp [ofValue, ofFields, known, bind, Except.bind] at h
      | ok _ =>
        have entry : Describes (.part .filter fields) fields := .built known
        rw [ofValue_of_describes entry] at h
        exact ⟨fields, entry, named fields h⟩
    | _ => exact absurd h (by simp [ofValue, Value.refuse])
  | _ => exact absurd h (by simp [ofValue, Value.refuse])

theorem ofValue_toValue_eq (f : Filter) : ofValue f.toValue = checked f :=
  ofRecord_toRecord f

theorem ofValue_toValue (h : ofValue x = .ok f) : ofValue f.toValue = .ok f := by
  obtain ⟨r, -, column, rfl⟩ := exists_describes h
  rw [ofValue_toValue_eq, checked_eq_ok_iff]
  exact ⟨rfl, column⟩

/-- The filters that the entries of a list are read as. -/
def Reads (xs : List Value) (fs : List Filter) : Prop :=
  List.Forall₂ (fun x f => ofValue x = .ok f) xs fs

theorem Reads.mapM_eq (h : Reads xs fs) : xs.mapM ofValue = .ok fs := by
  induction h with
  | nil => rfl
  | cons here _ ih =>
    rw [List.mapM_cons, here, ih]
    rfl

theorem Reads.append (h : Reads xs fs) (later : Reads ys gs) : Reads (xs ++ ys) (fs ++ gs) :=
  List.rel_append h later

theorem Reads.toValue (h : Reads xs fs) : Reads (fs.map toValue) fs := by
  induction h with
  | nil => exact .nil
  | cons here _ ih => exact .cons (ofValue_toValue here) ih

theorem Reads.ne_nil (h : Reads xs fs) (nonempty : xs ≠ []) : fs ≠ [] := by
  cases h with
  | nil => exact absurd rfl nonempty
  | cons => exact List.cons_ne_nil _ _

theorem listOf_list (nonempty : xs ≠ []) : listOf (.list xs) = xs.mapM ofValue := by
  cases xs with
  | nil => exact absurd rfl nonempty
  | cons x xs => exact listOf_of_isTrue rfl (by simp)

theorem mapM_ofValue_nameless {before : List Value} (described : ∀ y ∈ before, ∃ s, Describes y s)
    (entry : Describes x r) (nameless : ¬ NamesColumn r) (after : List Value) :
    (before ++ x :: after).mapM ofValue = .error .filterWithoutColumn := by
  induction before with
  | nil =>
    rw [List.nil_append, List.mapM_cons, ofValue_of_describes entry, ofRecord_eq_error nameless]
    rfl
  | cons y before ih =>
    obtain ⟨⟨s, first⟩, others⟩ := List.forall_mem_cons.1 described
    rw [List.cons_append, List.mapM_cons, ofValue_of_describes first, ih others]
    by_cases column : NamesColumn s
    · rw [ofRecord_eq_ok column]
      rfl
    · rw [ofRecord_eq_error column]
      rfl

end Filter

namespace Descriptor

open TableSchema.Filter

variable {d : Descriptor} {x : Value} {f : Filter} {xs ys : List Value} {fs gs : List Filter}
  {column operator : String} {given : Value}

theorem whereClause_of_listOf (h : Filter.listOf given = .ok fs) :
    d.whereClause given = whereText <$> fs.mapM d.condition := by
  rw [whereClause, h]
  rfl

theorem whereClause_one (h : Filter.ofValue x = .ok f) :
    d.whereClause x = whereText <$> [f].mapM d.condition :=
  whereClause_of_listOf (listOf_of_ofValue h)

theorem whereClause_list (h : Reads xs fs) :
    d.whereClause (.list xs) = whereText <$> fs.mapM d.condition := by
  cases h with
  | nil => rfl
  | cons here later =>
    have read : Reads (_ :: _) (_ :: _) := .cons here later
    rw [whereClause_of_listOf]
    rw [listOf_list (List.cons_ne_nil _ _), read.mapM_eq]

/-- The conditions of a clause: its text behind ` WHERE `. -/
def conditionsOf (clause : String) : String :=
  String.ofList (clause.toList.drop " WHERE ".length)

theorem conditionsOf_append (conditions : String) :
    conditionsOf (" WHERE " ++ conditions) = conditions := by
  have dropped : (" WHERE " ++ conditions).toList.drop " WHERE ".length = conditions.toList := by
    rw [String.toList_append]
    exact List.drop_left
  rw [conditionsOf, dropped, String.ofList_toList]

theorem whereText_eq {conditions : List String} (nonempty : conditions ≠ []) :
    whereText conditions = " WHERE " ++ " AND ".intercalate conditions := by
  cases conditions with
  | nil => exact absurd rfl nonempty
  | cons => rfl

theorem intercalate_append (sep : String) {a b : List String} (ha : a ≠ []) (hb : b ≠ []) :
    sep.intercalate (a ++ b) = sep.intercalate a ++ (sep ++ sep.intercalate b) := by
  induction a with
  | nil => exact absurd rfl ha
  | cons s a ih =>
    cases a with
    | nil =>
      obtain ⟨t, l, rfl⟩ := List.exists_cons_of_ne_nil hb
      rw [List.singleton_append, String.intercalate_cons_cons, String.intercalate_singleton,
        String.append_assoc]
    | cons t a =>
      have rest := ih (List.cons_ne_nil t a)
      rw [List.cons_append] at rest
      rw [List.cons_append, List.cons_append, String.intercalate_cons_cons,
        String.intercalate_cons_cons, rest]
      simp only [String.append_assoc]

theorem whereText_append {a b : List String} (ha : a ≠ []) (hb : b ≠ []) :
    whereText (a ++ b) = whereText a ++ " AND " ++ conditionsOf (whereText b) := by
  rw [whereText_eq ha, whereText_eq hb, whereText_eq (List.append_ne_nil_of_left_ne_nil ha b),
    conditionsOf_append, intercalate_append " AND " ha hb]
  simp only [String.append_assoc]

theorem conditions_ne_nil {conditions : List String} (nonempty : fs ≠ [])
    (h : fs.mapM d.condition = .ok conditions) : conditions ≠ [] := by
  rintro rfl
  have none := (mapM_eq_ok_iff d.condition).1 h
  exact nonempty (List.map_eq_nil_iff.1 none)

theorem whereClause_append (hx : Reads xs fs) (hy : Reads ys gs) (someX : xs ≠ [])
    (someY : ys ≠ []) : d.whereClause (.list (xs ++ ys)) = do
      let first ← d.whereClause (.list xs)
      let second ← d.whereClause (.list ys)
      return first ++ " AND " ++ conditionsOf second := by
  rw [whereClause_list (hx.append hy), whereClause_list hx, whereClause_list hy, List.mapM_append]
  cases first : fs.mapM d.condition with
  | error fault => rfl
  | ok a =>
    cases second : gs.mapM d.condition with
    | error fault => rfl
    | ok b =>
      have joined := whereText_append (conditions_ne_nil (hx.ne_nil someX) first)
        (conditions_ne_nil (hy.ne_nil someY) second)
      exact congrArg Except.ok joined

theorem exists_conditions (h : Reads xs fs) (nonempty : xs ≠ [])
    (renderable : ∀ f ∈ fs, f.IsRenderable) :
    ∃ conditions, d.whereClause (.list xs) = .ok (" WHERE " ++ conditions) := by
  have rendered := mapM_eq_ok_of_forall fun f hf => condition_eq_ok (d := d) (renderable f hf)
  refine ⟨" AND ".intercalate (fs.map d.conditionText), ?_⟩
  rw [whereClause_list h, rendered, ← whereText_eq (conditions_ne_nil (h.ne_nil nonempty) rendered)]
  rfl

theorem whereClause_null (read : Filter.ofValue x = .ok f) (null : f.value = .null)
    (text : f.comparison = .text operator) (named : d.filterColumn f = .ok column) :
    d.whereClause x = .ok (" WHERE " ++ column ++ " " ++ nullTest operator) := by
  have condition : d.condition f = .ok (column ++ " " ++ nullTest operator) := by
    rw [condition, named, filterTest, null, text]
    rfl
  rw [whereClause_one read, List.mapM_cons, condition]
  change Except.ok (" WHERE " ++ (column ++ " " ++ nullTest operator)) = _
  simp only [String.append_assoc]

theorem nullTest_eq_iff (operator : String) :
    (nullTest operator = "IS NOT NULL" ↔ Text.upper operator = "IS NOT") ∧
      (nullTest operator = "IS NULL" ↔ Text.upper operator ≠ "IS NOT") := by
  unfold nullTest
  split
  next same => simp [same]
  next other => simp [other]

inductive TakesFilters (given : Value) : Query → Prop
  | clause : TakesFilters given (.whereClause given)
  | select (useLabels : Bool) : TakesFilters given (.select useLabels given)
  | delete : TakesFilters given (.delete given)

theorem answer_eq_error {fault : Fault} {table : String} {q : Query} (h : d.sqlName = .ok table)
    (clause : d.whereClause given = .error fault) (takes : TakesFilters given q) :
    d.answer q = ⟨.error fault, []⟩ := by
  cases takes with
  | clause =>
    rw [answer, clause]
    rfl
  | select useLabels =>
    rw [answer, sqlSelect, h, clause]
    rfl
  | delete =>
    rw [answer, sqlDelete, h, clause]
    rfl

structure ComposesClauses (d : Descriptor) : Prop where
  joined : ∀ xs ys fs gs, Reads xs fs → Reads ys gs → xs ≠ [] → ys ≠ [] →
    d.whereClause (.list (xs ++ ys)) = do
      let first ← d.whereClause (.list xs)
      let second ← d.whereClause (.list ys)
      return first ++ " AND " ++ conditionsOf second
  opened : ∀ xs fs, Reads xs fs → xs ≠ [] → (∀ f ∈ fs, f.IsRenderable) →
    ∃ conditions, d.whereClause (.list xs) = .ok (" WHERE " ++ conditions) ∧
      conditionsOf (" WHERE " ++ conditions) = conditions
  single : ∀ x f, Filter.ofValue x = .ok f → d.whereClause (.list [x]) = d.whereClause x
  /-- It makes no difference whether a filter is described or built already. -/
  built : ∀ x f, Filter.ofValue x = .ok f → d.whereClause f.toValue = d.whereClause x
  allBuilt : ∀ xs fs, Reads xs fs →
    d.whereClause (.list (fs.map Filter.toValue)) = d.whereClause (.list xs)
  null : ∀ x f operator column, Filter.ofValue x = .ok f → f.value = .null →
    f.comparison = .text operator → d.filterColumn f = .ok column →
      (d.whereClause x = .ok (" WHERE " ++ column ++ " " ++ "IS NOT NULL") ↔
        Text.upper operator = "IS NOT") ∧
      (d.whereClause x = .ok (" WHERE " ++ column ++ " " ++ "IS NULL") ↔
        Text.upper operator ≠ "IS NOT")
  /-- Behind an entry that names no column may stand anything. -/
  nameless : ∀ before x after r q, (∀ y ∈ before, ∃ s, Describes y s) → Describes x r →
    ¬ NamesColumn r → TakesFilters (.list (before ++ x :: after)) q →
      d.answer q = ⟨.error .filterWithoutColumn, []⟩

/-- Clauses are put together of those of the parts of a list, and one entry that names no column
leaves neither a clause nor a statement nor an event. -/
theorem composesClauses (d : Descriptor) {name : String} (named : d.tableName = .text name) :
    d.ComposesClauses where
  joined _ _ _ _ := whereClause_append
  opened := by
    intro xs fs read nonempty renderable
    obtain ⟨conditions, clause⟩ := exists_conditions (d := d) read nonempty renderable
    exact ⟨conditions, clause, conditionsOf_append conditions⟩
  single := by
    intro x f read
    rw [whereClause_one read, whereClause_list (.cons read .nil)]
  built := by
    intro x f read
    rw [whereClause_one read, whereClause_one (ofValue_toValue read)]
  allBuilt := by
    intro xs fs read
    rw [whereClause_list read, whereClause_list read.toValue]
  null := by
    intro x f operator column read null text reference
    obtain ⟨denied, asked⟩ := nullTest_eq_iff operator
    rw [whereClause_null read null text reference, ← denied, ← asked]
    simp only [Except.ok.injEq, String.append_right_inj, and_self]
  nameless := by
    intro before x after r q described entry column takes
    refine answer_eq_error (sqlName_eq named) ?_ takes
    rw [whereClause, listOf_list (by simp),
      mapM_ofValue_nameless described entry column after]
    rfl

theorem composesClauses_of_parcelTable :
    parcelTable.whereClause parcelFilters = .ok " WHERE p.weight < 5 AND p.id IS NOT NULL" ∧
      parcelTable.answer (.delete (.list
          [.record [("column", .text "weight"), ("value", .int 5)], .record [], .int 3])) =
        ⟨.error .filterWithoutColumn, []⟩ := by
  have composes : parcelTable.ComposesClauses := composesClauses parcelTable rfl
  constructor
  · have joined := composes.joined
      [.record [("column", .text "weight"), ("operator", .text "<"), ("value", .int 5)]]
      [.part .filter [("alias", .text "p_id"), ("operator", .text "is not")]]
      _ _ (.cons rfl .nil) (.cons rfl .nil) (by simp) (by simp)
    have null := composes.null
      (.part .filter [("alias", .text "p_id"), ("operator", .text "is not")])
      _ "is not" "p.id" rfl rfl rfl (by decide)
    have asked := null.1.2 (by decide)
    rw [composes.single _ _ rfl, composes.single _ _ rfl, asked] at joined
    exact joined
  · exact composes.nameless [.record [("column", .text "weight"), ("value", .int 5)]] (.record [])
      [.int 3] [] _ (by simpa using ⟨_, .mapping _⟩) (.mapping []) (by decide) .delete

end Descriptor

end TableSchema
