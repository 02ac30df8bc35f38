import TableSchema.Text.Blank
import TableSchema.Text.Case
import TableSchema.Value.Access

/-!
Settings and the four environment variables that they are read from. A variable that is missing,
blank or, for a flag, not understood leaves the default in place.
-/

namespace TableSchema

structure Settings where
  defaultSqlType : String := "text"
  strictValidation : Bool := false
  metricsEnabled : Bool := true
  logLevel : Value := .text "INFO"
  deriving DecidableEq

structure Environment where
  defaultSqlType : Option String := none
  strict : Option String := none
  metrics : Option String := none
  logLevel : Option String := none
  deriving DecidableEq, Repr

namespace Settings

def trueWords : List String :=
  ["1", "true", "yes", "on"]

def falseWords : List String :=
  ["0", "false", "no", "off"]

def readFlag (raw : Option String) (default : Bool) : Bool :=
  match raw with
  | none => default
  | some s =>
    let word := Text.lower (Text.strip s)
    if trueWords.contains word then true
    else if falseWords.contains word then false
    else default

/-- The text unless it is empty. -/
def orDefault (s default : String) : String :=
  if s = "" then default else s

def defaultLogLevel : String := "INFO"

def ofEnvironment (env : Environment) : Settings :=
  let defaults : Settings := {}
  { defaultSqlType := orDefault (Text.strip (env.defaultSqlType.getD "")) defaults.defaultSqlType
    strictValidation := readFlag env.strict defaults.strictValidation
    metricsEnabled := readFlag env.metrics defaults.metricsEnabled
    logLevel := .text (orDefault (Text.upper (Text.strip (env.logLevel.getD defaultLogLevel)))
      defaultLogLevel) }

/-- Builds settings from their fields; those that are missing have their defaults. -/
def ofFields (r : Record) : Except Fault Settings := do
  r.checkFields "Settings"
    ["default_sql_type", "strict_validation", "metrics_enabled", "log_level"] []
  let defaults : Settings := {}
  return {
    defaultSqlType := (r.get? "default_sql_type").elim defaults.defaultSqlType Value.display
    strictValidation := (r.get? "strict_validation").elim defaults.strictValidation Value.isTrue
    metricsEnabled := (r.get? "metrics_enabled").elim defaults.metricsEnabled Value.isTrue
    logLevel := (r.get? "log_level").getD defaults.logLevel }

end Settings

/-- How log records are filtered and written. -/
structure LogSetup where
  threshold : Value
  format : String
  deriving DecidableEq

namespace LogSetup

def levels : Record :=
  [("CRITICAL", .int 50), ("FATAL", .int 50), ("ERROR", .int 40), ("WARNING", .int 30),
   ("WARN", .int 30), ("INFO", .int 20), ("DEBUG", .int 10), ("NOTSET", .int 0)]

/-- A level that is not known is taken for `INFO`. Names that the log keeps for something other than
a level are left out. -/
def ofSettings (s : Settings) : Except Fault LogSetup := do
  let name ← s.logLevel.requireText .levelName
  return {
    threshold := (Record.get? levels name).getD (.int 20)
    format := "%(asctime)s - %(name)s - %(levelname)s - %(message)s" }

end LogSetup

end TableSchema
