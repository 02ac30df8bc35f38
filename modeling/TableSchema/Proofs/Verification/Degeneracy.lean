import TableSchema.Descriptor.Statement
import TableSchema.Verification.Verdict

/-!
Degenerate inserts and updates: the reasons that columns and data give, how generation reports them,
and what it means that validation and the verifier find the same.
-/

namespace TableSchema

open Text Verification

/-- A value that can be asked whether it contains a text. -/
def Value.IsKeySet (data : Value) : Prop :=
  ∀ key : String, data.checkMembership (.text key) = .ok ()

theorem Value.isKeySet_record (entries : Record) : (Value.record entries).IsKeySet :=
  fun _ => rfl

namespace Descriptor

variable {d : Descriptor} {data : Value}

def AssignsNothing (d : Descriptor) (data : Value) : Prop :=
  ∀ c ∈ d.columns, c.isPrimary = false → data.contains c.name = false

def InsertsNothing (d : Descriptor) (data : Value) : Prop :=
  ∀ c ∈ d.columns, data.contains (.text (d.prefixed c.name.display)) = false

def LacksPrimaryKey (d : Descriptor) : Prop :=
  ∀ c ∈ d.columns, c.isPrimary = false

instance : Decidable (d.AssignsNothing data) :=
  inferInstanceAs (Decidable (∀ c ∈ d.columns, _ → _))

instance : Decidable (d.InsertsNothing data) :=
  inferInstanceAs (Decidable (∀ c ∈ d.columns, _))

instance : Decidable d.LacksPrimaryKey :=
  inferInstanceAs (Decidable (∀ c ∈ d.columns, _))

/-- The reasons for which an update is degenerate. -/
def updateReasons (d : Descriptor) (data : Value) : List Degeneracy :=
  (if d.AssignsNothing data then [.emptyUpdate] else []) ++
    (if d.LacksPrimaryKey then [.missingPrimaryKey] else [])

def insertReasons (d : Descriptor) (data : Value) : List Degeneracy :=
  if d.InsertsNothing data then [.emptyInsert] else []

def warning (d : Descriptor) : Degeneracy → String
  | .emptyInsert => "insert into " ++ d.tableName.display ++ " matched no columns"
  | .emptyUpdate => "update of " ++ d.tableName.display ++ " has no assignments"
  | .missingPrimaryKey => "update of " ++ d.tableName.display ++ " has no primary key to match on"

structure Reports (d : Descriptor) (x : Observed String) (reasons : List Degeneracy) : Prop where
  logged : x.entries false = reasons.map fun reason => ⟨.warning, .descriptor, d.warning reason⟩
  counted : ∀ reason, x.increments (.degenerate reason) =
    if d.settings.metricsEnabled then reasons.count reason else 0

end Descriptor

def Degeneracy.problem : Degeneracy → Problem
  | .emptyInsert => .emptyStatement
  | .emptyUpdate => .emptySetClause
  | .missingPrimaryKey => .missingPrimaryKey

namespace Descriptor

variable {d : Descriptor} {data : Value}

structure UpdateAgrees (d : Descriptor) (data : Value) (v : Verifier) (sql : String) : Prop where
  generated : (d.sqlUpdate data).outcome = .ok sql
  reported : d.Reports (d.sqlUpdate data) (d.updateReasons data)
  recognized : updateProblems sql.toList = (d.updateReasons data).map Degeneracy.problem
  validates : (∃ issues, d.validate.outcome = .ok issues) ↔
    ∀ fk ∈ d.constraints, fk.localColumn.changeable? = none
  validated : ∀ issues, d.validate.outcome = .ok issues →
    (.noPrimaryKey ∈ issues ↔ d.LacksPrimaryKey)
  verified : ∃ verdict, (v.verify (.text sql)).outcome = .ok verdict ∧
    (d.updateReasons data = [] → ∃ call, verdict.parserCalls = [call]) ∧
    (d.updateReasons data ≠ [] → verdict.parserCalls = [] ∧
      verdict.rejection = some ⟨.parseError, (d.updateReasons data).map Degeneracy.problem⟩)

structure InsertAgrees (d : Descriptor) (data : Value) (v : Verifier) (sql : String) : Prop where
  generated : (d.sqlInsert data).outcome = .ok sql
  empty : sql = "" ↔ d.InsertsNothing data
  reported : d.Reports (d.sqlInsert data) (d.insertReasons data)
  verified : ∃ verdict, (v.verify (.text sql)).outcome = .ok verdict ∧
    ((∃ r, verdict.rejection = some r ∧ r.code = .emptyStatement) ↔ d.InsertsNothing data)

structure IsSilent (events : List Event) : Prop where
  logged : (events.filterMap Event.entry?).filter (fun e => false || e.level == .warning) = []
  counted : ∀ reason, events.count (.count (.degenerate reason)) = 0

theorem isSilent_nil : IsSilent [] :=
  ⟨rfl, fun _ => rfl⟩

theorem isSilent_generated (d : Descriptor) (kind : StatementKind) (sql : String) :
    IsSilent (d.generated kind sql) where
  logged := by
    unfold generated Event.counted
    cases d.settings.metricsEnabled <;> rfl
  counted := by
    intro reason
    refine List.count_eq_zero.2 fun mem => ?_
    unfold generated Event.counted at mem
    cases d.settings.metricsEnabled <;> simp at mem

theorem warnings_degenerate (d : Descriptor) (reason : Degeneracy) (text : String) :
    ((d.degenerate reason text).filterMap Event.entry?).filter
      (fun e => false || e.level == .warning) = [⟨.warning, .descriptor, text⟩] := by
  unfold degenerate Event.counted
  cases d.settings.metricsEnabled <;> rfl

theorem count_degenerate (d : Descriptor) (reason other : Degeneracy) (text : String) :
    (d.degenerate reason text).count (.count (.degenerate other)) =
      if d.settings.metricsEnabled then [reason].count other else 0 := by
  unfold degenerate Event.counted
  cases d.settings.metricsEnabled with
  | false => simp
  | true => simp [List.count_cons]

theorem reports_of_events {x : Observed String} {reasons : List Degeneracy} {rest : List Event}
    (h : x.events = reasons.flatMap (fun r => d.degenerate r (d.warning r)) ++ rest)
    (silent : IsSilent rest) : d.Reports x reasons where
  logged := by
    rw [Observed.entries, h, List.filterMap_append, List.filter_append, silent.logged,
      List.append_nil]
    clear h
    induction reasons with
    | nil => rfl
    | cons reason reasons ih =>
      rw [List.flatMap_cons, List.filterMap_append, List.filter_append, warnings_degenerate, ih]
      rfl
  counted := by
    intro other
    rw [Observed.increments, h, List.count_append, silent.counted, Nat.add_zero]
    clear h
    induction reasons with
    | nil => simp
    | cons reason reasons ih =>
      rw [List.flatMap_cons, List.count_append, count_degenerate, ih]
      have split : (reason :: reasons).count other =
          [reason].count other + reasons.count other := by
        rw [← List.count_append, List.singleton_append]
      rw [split]
      cases d.settings.metricsEnabled <;> simp

end Descriptor

end TableSchema
