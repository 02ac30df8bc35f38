import TableSchema.Verification.Verdict

/-!
Reports on statements: what is told of a verdict to those who asked for it. An accepted statement is
given back with its length, and of a rejected one the problems and their code are told.
-/

namespace TableSchema.Verification

structure Report where
  accepted : Bool
  statement : Option String := none
  problems : Option (List String) := none
  code : Option Code := none
  stage : String := Verdict.stage
  summary : String
  notes : Notes
  /-- Noted of every statement beside what was learnt about it. -/
  verified : Bool
  length : Option Nat := none
  deriving DecidableEq, Repr

def Verdict.report (v : Verdict) : Report :=
  match v.rejection with
  | none =>
    { accepted := true
      statement := some v.statement
      summary := v.summary
      notes := v.notes
      verified := true
      length := some v.statement.length }
  | some r =>
    { accepted := false
      problems := some (r.problems.map Problem.text)
      code := some r.code
      summary := v.summary
      notes := v.notes
      verified := false }

end TableSchema.Verification
