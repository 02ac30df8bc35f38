import TableSchema.Proofs.Validation.Counting
import TableSchema.Proofs.Verification.Agreement

/-!
What answering a query counts: each statement of the answer once by its kind, each reason for which
a statement is degenerate once, the issues that validation finds, and nothing else. A fault leaves
nothing counted, but for the blocks of the foreign keys before the one that it arises from.
-/

namespace TableSchema

namespace Observed

variable {α β : Type}

theorem map_eq (f : α → β) (x : Observed α) : f <$> x = ⟨f <$> x.outcome, x.events⟩ := by
  obtain ⟨outcome, events⟩ := x
  cases outcome with
  | ok a => exact congrArg (Observed.mk _) (List.append_nil events)
  | error fault => rfl

theorem events_map (f : α → β) (x : Observed α) : (f <$> x).events = x.events := by
  rw [map_eq]

theorem mapM_upTo {f : α → Observed β} {p : α → Bool} {g : α → β} {e : α → List Event}
    {xs : List α} (ok : ∀ x ∈ xs, p x = true → f x = ⟨.ok (g x), e x⟩)
    (failed : ∀ x ∈ xs, p x = false → ∃ fault, f x = ⟨.error fault, []⟩) :
    xs.mapM f = ⟨.ok (xs.map g), xs.flatMap e⟩ ∨
      ∃ fault, xs.mapM f = ⟨.error fault, (xs.takeWhile p).flatMap e⟩ := by
  induction xs with
  | nil => exact .inl rfl
  | cons x xs ih =>
    rw [List.mapM_cons]
    cases h : p x with
    | false =>
      obtain ⟨fault, stopped⟩ := failed x List.mem_cons_self h
      rw [stopped, List.takeWhile_cons_of_neg (by simp [h])]
      exact .inr ⟨fault, rfl⟩
    | true =>
      rw [ok x List.mem_cons_self h, List.takeWhile_cons_of_pos h]
      rcases ih (fun y hy => ok y (List.mem_cons_of_mem x hy))
        fun y hy => failed y (List.mem_cons_of_mem x hy) with rest | ⟨fault, rest⟩
      · rw [rest]
        refine .inl ?_
        simp [bind_eq, Observed.bind]
      · rw [rest]
        exact .inr ⟨fault, rfl⟩

end Observed

theorem append_ne_empty {a : String} (first : a ≠ "") (b : String) : a ++ b ≠ "" :=
  fun empty => first (String.append_eq_empty_iff.1 empty).1

def Query.kind? : Query → Option StatementKind
  | createTable => some .createTable
  | enumConstraints => some .enumConstraint
  | tableConstraints => some .foreignKeyConstraint
  | dropTable => some .dropTable
  | select .. => some .select
  | insert _ => some .insert
  | update _ => some .update
  | delete _ => some .delete
  | _ => none

namespace Descriptor

variable {d : Descriptor} {table : String} {data filters : Value}

/-- The foreign keys before the first one to a table without a name. -/
def referable (d : Descriptor) : List ForeignKey :=
  d.constraints.takeWhile fun fk => fk.referencedTable.text?.isSome

/-- How many statements a query is answered with, where the empty text is none. -/
def rendered (d : Descriptor) (q : Query) : Nat :=
  match q, (d.answer q).outcome with
  | _, .ok reply => (reply.statements.filter (· ≠ "")).length
  | .tableConstraints, .error _ => d.referable.length
  | _, .error _ => 0

def blankUpdate (d : Descriptor) : String :=
  d.updateText (Text.lower d.tableName.display) []

def reasons (d : Descriptor) (q : Query) : List Degeneracy :=
  match q, (d.answer q).outcome with
  | .insert _, .ok (.text sql) => if sql = "" then [.emptyInsert] else []
  | .update _, .ok (.text sql) =>
    (if sql = d.blankUpdate then [.emptyUpdate] else []) ++
      (if d.LacksPrimaryKey then [.missingPrimaryKey] else [])
  | _, _ => []

def issueSeries (d : Descriptor) : Query → List Series
  | .validate => Validation.series d.validate
  | _ => []

/-- What answering a query has to count. -/
def ledger (d : Descriptor) (q : Query) : List Series :=
  (q.kind?.elim [] fun kind => List.replicate (d.rendered q) (.statements kind)) ++
    (d.reasons q).map .degenerate ++ d.issueSeries q

section Answer

variable {q : Query} {kind : StatementKind}

theorem rendered_of_ok {reply : Reply} (answered : (d.answer q).outcome = .ok reply) :
    d.rendered q = (reply.statements.filter (· ≠ "")).length := by
  unfold rendered
  rw [answered]

theorem rendered_of_error {fault : Fault} (failed : (d.answer q).outcome = .error fault)
    (other : q ≠ .tableConstraints) : d.rendered q = 0 := by
  unfold rendered
  rw [failed]
  cases q with
  | tableConstraints => exact absurd rfl other
  | _ => rfl

theorem reasons_of_error {fault : Fault} (failed : (d.answer q).outcome = .error fault) :
    d.reasons q = [] := by
  unfold reasons
  rw [failed]
  cases q <;> rfl

theorem ledger_of_kind (asked : q.kind? = some kind) :
    d.ledger q =
      List.replicate (d.rendered q) (.statements kind) ++ (d.reasons q).map .degenerate := by
  have unvalidated : d.issueSeries q = [] := by
    cases q with
    | validate => simp [Query.kind?] at asked
    | _ => rfl
  rw [ledger, asked, unvalidated, List.append_nil]
  rfl

theorem counts_generated (d : Descriptor) (kind : StatementKind) (sql : String) :
    Counts d.settings.metricsEnabled (d.generated kind sql) [.statements kind] :=
  Counts.logged _ _

theorem counts_text {sql : String} (asked : q.kind? = some kind) (plain : d.reasons q = [])
    (nonempty : sql ≠ "") (answer : d.answer q = ⟨.ok (.text sql), d.generated kind sql⟩) :
    Counts d.settings.metricsEnabled (d.answer q).events (d.ledger q) := by
  have single : d.rendered q = 1 := by
    rw [rendered_of_ok (by rw [answer])]
    simp [Reply.statements, nonempty]
  rw [ledger_of_kind asked, plain, List.map_nil, List.append_nil, single, answer]
  exact counts_generated d kind sql

theorem counts_fault {fault : Fault} (asked : q.kind? = some kind) (other : q ≠ .tableConstraints)
    (answer : d.answer q = ⟨.error fault, []⟩) :
    Counts d.settings.metricsEnabled (d.answer q).events (d.ledger q) := by
  have failed : (d.answer q).outcome = .error fault := by rw [answer]
  rw [ledger_of_kind asked, rendered_of_error failed other, reasons_of_error failed, answer]
  exact Counts.nil

theorem counts_published {part : Except Fault String} {text : String → String}
    (asked : q.kind? = some kind) (other : q ≠ .tableConstraints) (plain : d.reasons q = [])
    (nonempty : ∀ part, text part ≠ "")
    (answered : d.answer q =
      Reply.text <$> (Observed.lift part >>= fun part => d.publish kind (text part))) :
    Counts d.settings.metricsEnabled (d.answer q).events (d.ledger q) := by
  cases part with
  | error fault => exact counts_fault asked other answered
  | ok part =>
    refine counts_text asked plain (nonempty part) ?_
    rw [answered, Observed.lift_ok_bind, publish_eq, Observed.map_eq]
    rfl

end Answer

section Blocks

theorem conditionalBlock_ne_empty (table constraint statement : String) :
    conditionalBlock table constraint statement ≠ "" := by
  unfold conditionalBlock
  rw [String.intercalate_cons_cons]
  iterate 2 refine append_ne_empty ?_ _
  decide

theorem counts_blocks (d : Descriptor) (kind : StatementKind) (blocks : List String) :
    Counts d.settings.metricsEnabled (blocks.flatMap (d.generated kind))
      (List.replicate blocks.length (.statements kind)) := by
  rw [← List.map_const']
  exact Counts.each (counts_generated d kind) blocks

theorem counts_texts {q : Query} {kind : StatementKind} {blocks : List String}
    (asked : q.kind? = some kind) (plain : d.reasons q = []) (nonempty : ∀ sql ∈ blocks, sql ≠ "")
    (answer : d.answer q = ⟨.ok (.texts blocks), blocks.flatMap (d.generated kind)⟩) :
    Counts d.settings.metricsEnabled (d.answer q).events (d.ledger q) := by
  have all : d.rendered q = blocks.length := by
    rw [rendered_of_ok (by rw [answer]), Reply.statements,
      List.filter_eq_self.2 fun sql mem => decide_eq_true (nonempty sql mem)]
  rw [ledger_of_kind asked, plain, List.map_nil, List.append_nil, all, answer]
  exact counts_blocks d kind blocks

theorem counts_enumConstraints (sqlName : d.sqlName = .ok table) :
    Counts d.settings.metricsEnabled (d.answer .enumConstraints).events
      (d.ledger .enumConstraints) := by
  have nonempty : ∀ sql ∈ d.enumConstraintBlocks table, sql ≠ "" := by
    intro sql mem
    obtain ⟨c, -, block⟩ := List.mem_filterMap.1 mem
    obtain ⟨values, -, rfl⟩ := Option.map_eq_some_iff.1 block
    exact conditionalBlock_ne_empty table _ _
  refine counts_texts rfl rfl nonempty ?_
  rw [Descriptor.answer, sqlCreateEnumConstraints_eq sqlName, Observed.map_eq]
  rfl

theorem sqlCreateTableConstraints_upTo (sqlName : d.sqlName = .ok table) :
    d.sqlCreateTableConstraints =
        ⟨.ok (d.constraints.map (foreignKeyText table)),
          (d.constraints.map (foreignKeyText table)).flatMap
            (d.generated .foreignKeyConstraint)⟩ ∨
      ∃ fault, d.sqlCreateTableConstraints =
        ⟨.error fault, (d.referable.map (foreignKeyText table)).flatMap
          (d.generated .foreignKeyConstraint)⟩ := by
  rw [sqlCreateTableConstraints, sqlName, Observed.lift_ok_bind, List.flatMap_map,
    List.flatMap_map]
  refine Observed.mapM_upTo ?_ ?_
  · intro fk _ named
    obtain ⟨referenced, text⟩ := Option.isSome_iff_exists.1 named
    rw [foreignKeyBlock_eq ((Value.text?_eq_some_iff _ referenced).1 text), Observed.lift_ok_bind,
      publish_eq]
  · intro fk _ unnamed
    have refused : ∃ fault, foreignKeyBlock table fk = .error fault := by
      unfold foreignKeyBlock
      cases referenced : fk.referencedTable with
      | text s => simp [referenced, Value.text?] at unnamed
      | _ => exact ⟨_, rfl⟩
    obtain ⟨fault, failed⟩ := refused
    refine ⟨fault, ?_⟩
    rw [failed]
    rfl

theorem counts_tableConstraints (sqlName : d.sqlName = .ok table) :
    Counts d.settings.metricsEnabled (d.answer .tableConstraints).events
      (d.ledger .tableConstraints) := by
  rcases sqlCreateTableConstraints_upTo sqlName with generated | ⟨fault, generated⟩
  · have nonempty : ∀ sql ∈ d.constraints.map (foreignKeyText table), sql ≠ "" := by
      intro sql mem
      obtain ⟨fk, -, rfl⟩ := List.mem_map.1 mem
      exact conditionalBlock_ne_empty table _ _
    refine counts_texts rfl rfl nonempty ?_
    rw [Descriptor.answer, generated, Observed.map_eq]
    rfl
  · have answer : d.answer .tableConstraints =
        ⟨.error fault, (d.referable.map (foreignKeyText table)).flatMap
          (d.generated .foreignKeyConstraint)⟩ := by
      rw [Descriptor.answer, generated, Observed.map_eq]
      rfl
    have written : d.rendered .tableConstraints =
        (d.referable.map (foreignKeyText table)).length := by
      unfold rendered
      rw [answer, List.length_map]
    rw [ledger_of_kind rfl, reasons_of_error (by rw [answer]), List.map_nil, List.append_nil,
      written, answer]
    exact counts_blocks d .foreignKeyConstraint _

end Blocks

section Statement

theorem createTableText_ne_empty (d : Descriptor) (table : String) :
    d.createTableText table ≠ "" := by
  unfold createTableText
  iterate 4 refine append_ne_empty ?_ _
  decide

theorem dropTableText_ne_empty (table : String) : dropTableText table ≠ "" := by
  unfold dropTableText
  iterate 2 refine append_ne_empty ?_ _
  decide

theorem selectText_ne_empty (d : Descriptor) (useLabels : Bool) (table clause : String) :
    d.selectText useLabels table clause ≠ "" := by
  unfold selectText
  iterate 6 refine append_ne_empty ?_ _
  decide

theorem deleteText_ne_empty (d : Descriptor) (table clause : String) :
    d.deleteText table clause ≠ "" := by
  unfold deleteText
  iterate 4 refine append_ne_empty ?_ _
  decide

theorem counts_insert (sqlName : d.sqlName = .ok table) (data : Value) :
    Counts d.settings.metricsEnabled (d.answer (.insert data)).events
      (d.ledger (.insert data)) := by
  have answered : d.answer (.insert data) = Reply.text <$> d.sqlInsert data := rfl
  cases matched : d.insertColumns data with
  | error fault =>
    have answer : d.answer (.insert data) = ⟨.error fault, []⟩ := by
      rw [answered, sqlInsert, matched]
      rfl
    exact counts_fault rfl (by simp) answer
  | ok columns =>
    by_cases empty : columns = []
    · subst empty
      have answer : d.answer (.insert data) =
          ⟨.ok (.text ""), d.degenerate .emptyInsert (d.warning .emptyInsert)⟩ := by
        rw [answered, sqlInsert_eq_empty matched, Observed.map_eq]
        rfl
      have degenerate : d.reasons (.insert data) = [.emptyInsert] := by
        unfold reasons
        rw [answer]
        rfl
      have none : d.rendered (.insert data) = 0 := by
        rw [rendered_of_ok (by rw [answer])]
        rfl
      rw [ledger_of_kind rfl, none, degenerate, answer]
      exact Counts.logged _ _
    · have nonempty := insertText_ne_empty d table columns
      have answer : d.answer (.insert data) =
          ⟨.ok (.text (d.insertText table columns)),
            d.generated .insert (d.insertText table columns)⟩ := by
        rw [answered, sqlInsert_eq sqlName matched empty, Observed.map_eq]
        rfl
      have plain : d.reasons (.insert data) = [] := by
        unfold reasons
        rw [answer]
        exact if_neg nonempty
      exact counts_text rfl plain nonempty answer

theorem updateColumns_eq_assigned {columns : List Column}
    (h : d.updateColumns data = .ok columns) : columns = d.assigned data := by
  unfold updateColumns at h
  cases asked : d.columns.forM (fun c => data.checkMembership c.name) with
  | error fault => simp [asked, bind, Except.bind] at h
  | ok u =>
    rw [asked] at h
    exact (Except.ok.inj h).symm

theorem assignment_ne_empty (d : Descriptor) (c : Column) : d.assignment c ≠ "" := by
  intro empty
  unfold assignment at empty
  have sign := (String.append_eq_empty_iff.1 (String.append_eq_empty_iff.1 empty).1).2
  exact absurd sign (by decide)

theorem updateText_eq_iff (d : Descriptor) (table : String) (columns : List Column) :
    d.updateText table columns = d.updateText table [] ↔ columns = [] := by
  refine ⟨fun same => ?_, fun none => by rw [none]⟩
  unfold updateText at same
  simp only [String.append_left_inj, String.append_right_inj] at same
  cases columns with
  | nil => rfl
  | cons c cs =>
    refine absurd same ?_
    cases cs with
    | nil =>
      rw [List.map_cons, List.map_nil, String.intercalate_singleton]
      exact d.assignment_ne_empty c
    | cons c' cs =>
      rw [List.map_cons, List.map_cons, String.intercalate_cons_cons]
      exact append_ne_empty (append_ne_empty (d.assignment_ne_empty c) _) _

theorem counts_update (sqlName : d.sqlName = .ok table)
    (blank : d.blankUpdate = d.updateText table []) (data : Value) :
    Counts d.settings.metricsEnabled (d.answer (.update data)).events
      (d.ledger (.update data)) := by
  have answered : d.answer (.update data) = Reply.text <$> d.sqlUpdate data := rfl
  cases matched : d.updateColumns data with
  | error fault =>
    have answer : d.answer (.update data) = ⟨.error fault, []⟩ := by
      rw [answered, sqlUpdate, matched]
      rfl
    exact counts_fault rfl (by simp) answer
  | ok columns =>
    obtain rfl := updateColumns_eq_assigned matched
    have answer : d.answer (.update data) =
        ⟨.ok (.text (d.updateText table (d.assigned data))),
          ((d.updateReasons data).flatMap fun r => d.degenerate r (d.warning r)) ++
            d.generated .update (d.updateText table (d.assigned data))⟩ := by
      rw [answered, sqlUpdate_eq sqlName matched, updateEvents_eq_flatMap, Observed.map_eq]
      rfl
    have degenerate : d.reasons (.update data) = d.updateReasons data := by
      have nothing : d.updateText table (d.assigned data) = d.blankUpdate ↔
          d.AssignsNothing data := by
        rw [blank, updateText_eq_iff, ← List.isEmpty_iff, isEmpty_assigned, decide_eq_true_iff]
      unfold reasons
      rw [answer]
      simp only [nothing]
      rfl
    have single : d.rendered (.update data) = 1 := by
      rw [rendered_of_ok (by rw [answer])]
      simp [Reply.statements, updateText_ne_empty]
    have warned : Counts d.settings.metricsEnabled
        ((d.updateReasons data).flatMap fun r => d.degenerate r (d.warning r))
        ((d.updateReasons data).map .degenerate) :=
      Counts.each (fun reason => Counts.logged _ (.degenerate reason)) (d.updateReasons data)
    rw [ledger_of_kind rfl, single, degenerate, answer]
    exact (warned.append (counts_generated d .update _)).perm List.perm_append_comm

end Statement

theorem counts_validation (d : Descriptor) :
    Counts d.settings.metricsEnabled d.validate.events (Validation.series d.validate) :=
  Validation.counts_validate d.settings d.columns d.constraints

theorem events_freeze (d : Descriptor) : d.freeze.events = d.validate.events := by
  rw [freeze, Observed.bind_eq, Observed.bind]
  cases d.validate.outcome with
  | error fault => rfl
  | ok issues =>
    dsimp only
    split
    · rw [Observed.events_lift, List.append_nil]
    · cases aliasFor d.tableName (.text d.aliasName) with
      | error fault => exact List.append_nil _
      | ok aliasName => exact List.append_nil _

/-- Answering a query counts what is listed and nothing else. -/
theorem counts_answer {name : String} (text : d.tableName = .text name) (q : Query) :
    Counts d.settings.metricsEnabled (d.answer q).events (d.ledger q) := by
  have sqlName := sqlName_eq text
  have blank : d.blankUpdate = d.updateText (Text.lower name) [] := by
    rw [blankUpdate, text]
    rfl
  generalize Text.lower name = table at sqlName blank
  cases q with
  | createTable => exact counts_published rfl (by simp) rfl (createTableText_ne_empty d) rfl
  | enumConstraints => exact counts_enumConstraints sqlName
  | tableConstraints => exact counts_tableConstraints sqlName
  | dropTable => exact counts_published rfl (by simp) rfl dropTableText_ne_empty rfl
  | select useLabels filters =>
    have answered : d.answer (.select useLabels filters) =
        Reply.text <$> (Observed.lift (d.whereClause filters) >>= fun clause =>
          d.publish .select (d.selectText useLabels table clause)) := by
      rw [answer, sqlSelect, sqlName, Observed.lift_ok_bind]
    exact counts_published rfl (by simp) rfl (selectText_ne_empty d useLabels table) answered
  | insert data => exact counts_insert sqlName data
  | update data => exact counts_update sqlName blank data
  | delete filters =>
    have answered : d.answer (.delete filters) =
        Reply.text <$> (Observed.lift (d.whereClause filters) >>= fun clause =>
          d.publish .delete (d.deleteText table clause)) := by
      rw [answer, sqlDelete, sqlName, Observed.lift_ok_bind]
    exact counts_published rfl (by simp) rfl (deleteText_ne_empty d table) answered
  | validate =>
    rw [answer, Observed.events_map]
    exact counts_validation d
  | tableName lowered =>
    rw [answer, Observed.events_map]
    exact Counts.nil
  | columnName ofAlias =>
    rw [answer, Observed.events_map]
    exact Counts.nil
  | whereClause filters =>
    rw [answer, Observed.events_map]
    exact Counts.nil
  | _ => exact Counts.nil

end Descriptor

end TableSchema
