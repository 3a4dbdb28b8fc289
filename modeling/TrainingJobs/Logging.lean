/-
What the operator writes into its log, and how.

The settings come from the environment. A variable that says nothing useful is ignored, so that a log is
always written; but where a format is asked for by name, the name has to be known.
-/
import TrainingJobs.Text.Lowercase

set_option autoImplicit false

namespace TrainingJobs

abbrev Environment := String → Option String

inductive LogFormat where
  | json
  /-- Several lines per entry, for people. -/
  | pretty
  /-- One line per entry, for people. -/
  | compact
  deriving DecidableEq, Repr, Inhabited

/-- How the log is written. -/
structure LogSettings where
  format : LogFormat := .compact
  filter : String := "info,kube=warn"
  /-- Whether entries say where in the program they were made. -/
  location : Bool := false
  /-- Whether entries say which part of the program made them. -/
  target : Bool := true
  threadIds : Bool := false
  deriving DecidableEq, Repr, Inhabited

/-- A name that no form of the log has, in lower case. -/
structure UnknownLogFormat where
  name : String
  deriving DecidableEq, Repr, Inhabited

def UnknownLogFormat.message (e : UnknownLogFormat) : String :=
  "unknown log format '" ++ e.name ++ "', expected json, pretty or compact"

namespace LogFormat

def name : LogFormat → String
  | json => "json"
  | pretty => "pretty"
  | compact => "compact"

/-- The form with a name, in whatever case it is written. -/
def ofName (text : String) : Except UnknownLogFormat LogFormat :=
  let lower := Text.lowercase text
  match [json, pretty, compact].find? fun f => f.name == lower with
  | some f => .ok f
  | none => .error ⟨lower⟩

end LogFormat

namespace Environment

/-- Whether a variable asks for something: it is `true` in whatever case, or `1`. -/
def asksFor (env : Environment) (variableName : String) : Bool :=
  match env variableName with
  | some text => Text.sameUpToAsciiCase text "true" || text == "1"
  | none => false

end Environment

namespace LogSettings

def formatVariable : String := "XGB_LOG_FORMAT"

def filterVariable : String := "XGB_LOG_LEVEL"

/-- The variable with the filter that other programs go by too. -/
def sharedFilterVariable : String := "RUST_LOG"

/-- The variable that asks for the place in the program. -/
def locationVariable : String := "XGB_LOG_LOCATION"

def threadVariable : String := "XGB_LOG_THREAD_IDS"

def variableNames : List String :=
  [formatVariable, filterVariable, sharedFilterVariable, locationVariable, threadVariable]

/-- The settings of an environment, for a log that is not read at a terminal. -/
def ofEnvironment (env : Environment) : LogSettings where
  format := ((env formatVariable).bind fun text => (LogFormat.ofName text).toOption).getD .json
  filter := ((env filterVariable).or (env sharedFilterVariable)).getD ({} : LogSettings).filter
  location := env.asksFor locationVariable
  threadIds := env.asksFor threadVariable

end LogSettings

end TrainingJobs
