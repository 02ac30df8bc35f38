import TableSchema.Fault

/-!
What an operation leaves behind besides its answer: log entries and counted events, in the order in
which they happen. `Observed` computations keep their journal also when they end in a fault.
-/

namespace TableSchema

inductive Level
  | debug
  | warning
  deriving DecidableEq, Repr

/-- The part of the library that writes a log entry. -/
inductive Reporter
  | descriptor
  | validator
  | verifier
  deriving DecidableEq, Repr

structure LogEntry where
  level : Level
  reporter : Reporter
  text : String
  deriving DecidableEq, Repr

inductive StatementKind
  | createTable
  | enumConstraint
  | foreignKeyConstraint
  | dropTable
  | select
  | insert
  | update
  | delete
  deriving DecidableEq, Repr

namespace StatementKind

def all : List StatementKind :=
  [createTable, enumConstraint, foreignKeyConstraint, dropTable, select, insert, update, delete]

def text : StatementKind → String
  | createTable => "create_table"
  | enumConstraint => "enum_constraint"
  | foreignKeyConstraint => "fk_constraint"
  | dropTable => "drop_table"
  | select => "select"
  | insert => "insert"
  | update => "update"
  | delete => "delete"

end StatementKind

/-- The ways in which a statement can come out empty or unusable. -/
inductive Degeneracy
  | emptyInsert
  | emptyUpdate
  | missingPrimaryKey
  deriving DecidableEq, Repr

namespace Degeneracy

def all : List Degeneracy :=
  [emptyInsert, emptyUpdate, missingPrimaryKey]

def text : Degeneracy → String
  | emptyInsert => "empty_insert"
  | emptyUpdate => "empty_update"
  | missingPrimaryKey => "missing_primary_key"

end Degeneracy

/-- A counter of one kind of event. -/
inductive Series
  | statements (kind : StatementKind)
  | degenerate (reason : Degeneracy)
  | issues (code : Code)
  deriving DecidableEq, Repr

namespace Series

def all : List Series :=
  StatementKind.all.map statements ++ Degeneracy.all.map degenerate ++ Code.all.map issues

theorem mem_all (s : Series) : s ∈ all := by
  cases s with
  | statements kind => cases kind <;> decide
  | degenerate reason => cases reason <;> decide
  | issues code => cases code <;> decide

def labelled (family label value : String) : String :=
  family ++ "\x7b" ++ label ++ "=" ++ value ++ "\x7d"

def name : Series → String
  | statements kind => labelled "statements_generated_total" "kind" kind.text
  | degenerate reason => labelled "degenerate_statements_total" "reason" reason.text
  | issues code => labelled "validation_issues_total" "code" code.text

/-- The names of all counters, in ascending order. -/
def names : List String :=
  (all.map name).mergeSort fun a b => decide (a ≤ b)

end Series

inductive Event
  | log (entry : LogEntry)
  | count (series : Series)
  deriving DecidableEq, Repr

namespace Event

def entry? : Event → Option LogEntry
  | log entry => some entry
  | count _ => none

/-- Counting happens only where metrics are enabled. -/
def counted (enabled : Bool) (series : Series) : List Event :=
  if enabled then [count series] else []

end Event

/-- An answer, or the fault in place of one, with the events on the way to it. -/
structure Observed (α : Type) where
  outcome : Except Fault α
  events : List Event := []

namespace Observed

variable {α β : Type}

def lift (outcome : Except Fault α) : Observed α :=
  ⟨outcome, []⟩

def emit (events : List Event) : Observed Unit :=
  ⟨.ok (), events⟩

protected def bind (x : Observed α) (f : α → Observed β) : Observed β :=
  match x.outcome with
  | .ok a => ⟨(f a).outcome, x.events ++ (f a).events⟩
  | .error fault => ⟨.error fault, x.events⟩

instance : Monad Observed where
  pure a := ⟨.ok a, []⟩
  bind := Observed.bind

@[simp] theorem outcome_pure (a : α) : (pure a : Observed α).outcome = .ok a := rfl

@[simp] theorem events_pure (a : α) : (pure a : Observed α).events = [] := rfl

@[simp] theorem outcome_lift (outcome : Except Fault α) : (lift outcome).outcome = outcome := rfl

@[simp] theorem events_lift (outcome : Except Fault α) : (lift outcome).events = [] := rfl

theorem bind_eq (x : Observed α) (f : α → Observed β) : x >>= f = x.bind f := rfl

@[simp] theorem lift_ok_bind (a : α) (f : α → Observed β) : lift (.ok a) >>= f = f a := rfl

theorem emit_bind (events : List Event) (f : Unit → Observed β) :
    emit events >>= f = ⟨(f ()).outcome, events ++ (f ()).events⟩ := rfl

instance : LawfulMonad Observed :=
  LawfulMonad.mk' Observed
    (fun x => by
      obtain ⟨outcome, events⟩ := x
      cases outcome <;> simp [Functor.map, Observed.bind])
    (fun a f => by simp [bind_eq, Observed.bind])
    (fun x f g => by
      obtain ⟨outcome, events⟩ := x
      cases outcome with
      | error fault => simp [bind_eq, Observed.bind]
      | ok a =>
        simp only [bind_eq, Observed.bind]
        cases (f a).outcome <;> simp)

/-- The log entries of the level `warning`, or all of them. -/
def entries (x : Observed α) (withDebug : Bool) : List LogEntry :=
  (x.events.filterMap Event.entry?).filter fun e => withDebug || e.level == .warning

/-- How often a counter moved. -/
def increments (x : Observed α) (series : Series) : Nat :=
  x.events.count (.count series)

end Observed

end TableSchema
