import TableSchema.Journal
import TableSchema.Value.Access
import TableSchema.Verification.DoBlock
import TableSchema.Verification.InsertTarget
import TableSchema.Verification.Placeholder
import TableSchema.Verification.UpdateProblem

/-!
Verdicts on statements. Conditional blocks are judged by their shape, updates that show a sign of
degeneration are turned down, and everything else is handed to a parser, which has to find exactly
one statement.
-/

namespace TableSchema.Verification

open Text

/-- A statement as a parser reports it. -/
structure Tree where
  kind : String
  assignments : Nat := 0
  deriving DecidableEq, Repr

/-- What a parser answers: why it failed, or the statements found, empty ones as `none`. -/
inductive Parsing
  | failed (message : String)
  | trees (found : List (Option Tree))
  deriving DecidableEq, Repr

structure ParserCall where
  text : String
  dialect : Value
  deriving DecidableEq

inductive Problem
  | emptyStatement
  | malformedBlock
  | unbalancedDollarQuotes
  | missingBeginEnd
  | unbalancedIf
  | emptySetClause
  | missingPrimaryKey
  | unparsable (message : String)
  | severalStatements
  deriving DecidableEq, Repr

def Problem.text : Problem → String
  | emptyStatement => "empty_sql"
  | malformedBlock => "malformed_do_block"
  | unbalancedDollarQuotes => "unbalanced_dollar_quotes"
  | missingBeginEnd => "missing_begin_end"
  | unbalancedIf => "unbalanced_if"
  | emptySetClause => "empty_set_clause"
  | missingPrimaryKey => "missing_primary_key"
  | unparsable message => message
  | severalStatements => "Multiple statements detected"

def blockProblems (cs : List Char) : List Problem :=
  match blockBody? cs with
  | none => [.malformedBlock]
  | some body =>
    (if occurs "$$".toList body then [.unbalancedDollarQuotes] else []) ++
    (if isFramed body then [] else [.missingBeginEnd]) ++
    (if isBalanced body then [] else [.unbalancedIf])

def updateProblems (cs : List Char) : List Problem :=
  (if hasEmptySet cs then [.emptySetClause] else []) ++
  (if hasNullKey cs then [.missingPrimaryKey] else [])

/-- What was learnt about a statement before its verdict. -/
structure Notes where
  length : Nat
  kind : Option String := none
  placeholders : Option (List String) := none
  statements : Option Nat := none
  deriving DecidableEq, Repr

structure Rejection where
  code : Code
  problems : List Problem
  deriving DecidableEq, Repr

/-- The verdict on a statement, with the calls that it took of the parser. -/
structure Verdict where
  statement : String
  notes : Notes
  rejection : Option Rejection := none
  parserCalls : List ParserCall := []
  deriving DecidableEq

namespace Verdict

def isAccepted (v : Verdict) : Bool :=
  v.rejection.isNone

def stage : String := "verifier"

def summary (v : Verdict) : String :=
  if v.isAccepted then "ok" else "failed"

end Verdict

/-- A parser of statements in a dialect. -/
structure Verifier where
  parse : ParserCall → Parsing
  dialect : Value := .text "postgres"

/-- The text that a parser is shown. -/
def parserText (statement : String) : String :=
  unqualify (mask statement)

namespace Verifier

/-- The statement in upper case begins with the given phrase. -/
def beginsWith (phrase statement : String) : Bool :=
  phrase.toList.isPrefixOf (upperChars statement.toList)

/-- The verdict on what the parser answers for a statement. -/
def judgeParsing (statement : String) (notes : Notes) (call : ParserCall) : Parsing → Verdict
  | .failed message =>
    ⟨statement, notes, some ⟨.parseError, [.unparsable message]⟩, [call]⟩
  | .trees found =>
    let trees := found.filterMap id
    let notes := { notes with statements := some trees.length }
    match trees with
    | [tree] =>
      let notes := { notes with kind := some tree.kind }
      if tree.kind = "update" ∧ tree.assignments = 0 then
        ⟨statement, notes, some ⟨.parseError, [.emptySetClause]⟩, [call]⟩
      else ⟨statement, notes, none, [call]⟩
    | _ => ⟨statement, notes, some ⟨.multipleStatements, [.severalStatements]⟩, [call]⟩

/-- The verdict on a statement without blanks at its ends. -/
def judge (v : Verifier) (statement : String) : Verdict :=
  let notes : Notes := { length := statement.length }
  if statement = "" then ⟨statement, notes, some ⟨.emptyStatement, [.emptyStatement]⟩, []⟩
  else if beginsWith "DO " statement then
    let notes := { notes with kind := some "do_block" }
    match blockProblems statement.toList with
    | [] => ⟨statement, notes, none, []⟩
    | problems => ⟨statement, notes, some ⟨.parseError, problems⟩, []⟩
  else
    match if beginsWith "UPDATE" statement then updateProblems statement.toList else [] with
    | [] =>
      let call : ParserCall := ⟨parserText statement, v.dialect⟩
      let notes := { notes with placeholders := some (placeholders statement) }
      judgeParsing statement notes call (v.parse call)
    | problems => ⟨statement, notes, some ⟨.parseError, problems⟩, []⟩

/-- How a rejection is logged; a parser's failure is also told at the level `debug`. -/
def rejectionEvents (r : Rejection) : List Event :=
  r.problems.filterMap (fun
    | .unparsable message => some (.log ⟨.debug, .verifier, "parse failed: " ++ message⟩)
    | _ => none) ++
  [.log ⟨.warning, .verifier, "statement rejected by verifier: " ++ r.code.text⟩]

/-- Blanks around a statement do not matter. -/
def verifyText (v : Verifier) (statement : String) : Observed Verdict := do
  let verdict := v.judge (strip statement)
  Observed.emit ((verdict.rejection.map rejectionEvents).getD [])
  return verdict

/-- What does not count as true is taken for an empty statement. -/
def verify (v : Verifier) (sql : Value) : Observed Verdict := do
  let statement ← Observed.lift ((sql.orElse (.text "")).requireText .trimming)
  v.verifyText statement

end Verifier

end TableSchema.Verification
