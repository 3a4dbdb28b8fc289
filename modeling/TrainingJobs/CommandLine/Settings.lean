/-
The settings of the operator, and the options by which they are made.

An option stands for one setting. It says how it is written, which variable of the environment stands in for
it, and how its value is read. The defaults are those of the settings themselves.
-/
import TrainingJobs.Controller.State
import TrainingJobs.Logging
import TrainingJobs.Text.Numeral

set_option autoImplicit false

namespace TrainingJobs

/-- The settings of the operator. -/
structure Settings where
  /-- How many jobs are looked at at once. -/
  threadiness : Nat := 1
  /-- Whether the pods of a job are placed together. -/
  gang : Bool := false
  scheduler : String := PodGroup.defaultScheduler
  /-- The only namespace that is watched; all are, if there is none. -/
  ns : Option String := none
  /-- For how many seconds the controller waits to see what it asked for. -/
  expectationsTimeoutSeconds : Nat := 300
  /-- Every how many seconds all jobs are looked at; 0 stands for never. -/
  resyncPeriodSeconds : Nat := 30
  printDefinition : Bool := false
  /-- The form of the log, if it is not left to the environment. -/
  logFormat : Option LogFormat := none
  /-- The filter of the log, if it is not left to the environment. -/
  logFilter : Option String := none
  deriving DecidableEq, Repr, Inhabited

namespace Settings

def config (s : Settings) : Config where
  gang := s.gang
  scheduler := s.scheduler
  expectationsTimeout := .ofSeconds s.expectationsTimeoutSeconds

/-- How the log is written: as the environment says, unless the settings say something else. -/
def logSettings (s : Settings) (env : Environment) : LogSettings :=
  let log := LogSettings.ofEnvironment env
  { log with format := s.logFormat.getD log.format, filter := s.logFilter.getD log.filter }

/-- How often all jobs are looked at, if they ever are. -/
def resyncPeriod (s : Settings) : Option Duration :=
  if 0 < s.resyncPeriodSeconds then some (.ofSeconds s.resyncPeriodSeconds) else none

end Settings

structure CommandOption where
  /-- How it is written, without the dashes. -/
  name : String
  /-- The variable that stands in for it. -/
  variableName : Option String := none
  /-- Whether a value follows it; otherwise it is a switch, and being there means `true`. -/
  takesValue : Bool
  description : String
  /-- The settings with the value that a text stands for, if it stands for one. -/
  apply : String → Settings → Option Settings

namespace CommandOption

/-- Reads the value of a switch. -/
def readSwitch? : String → Option Bool
  | "true" => some true
  | "false" => some false
  | _ => none

def threadiness : CommandOption where
  name := "threadiness"
  variableName := some "XGB_THREADINESS"
  takesValue := true
  description := "Number of jobs reconciled concurrently"
  apply text s := (Text.readWord? text).map fun n => { s with threadiness := n }

def gang : CommandOption where
  name := "enable-gang-scheduling"
  variableName := some "XGB_ENABLE_GANG_SCHEDULING"
  takesValue := false
  description := "Schedule the pods of a job as one gang through a PodGroup"
  apply text s := (readSwitch? text).map fun b => { s with gang := b }

def scheduler : CommandOption where
  name := "gang-scheduler-name"
  variableName := some "XGB_GANG_SCHEDULER_NAME"
  takesValue := true
  description := "Scheduler that understands PodGroups"
  apply text s := some { s with scheduler := text }

def watchedNamespace : CommandOption where
  name := "namespace"
  variableName := some "XGB_NAMESPACE"
  takesValue := true
  description := "Only watch this namespace (default: all namespaces)"
  apply text s := some { s with ns := some text }

/-- How long the controller waits to see what it asked for. -/
def expectationsTimeout : CommandOption where
  name := "expectations-timeout-secs"
  variableName := some "XGB_EXPECTATIONS_TIMEOUT_SECS"
  takesValue := true
  description := "Seconds after which unobserved creations/deletions are given up on"
  apply text s := (Text.readWord? text).map fun n => { s with expectationsTimeoutSeconds := n }

def resyncPeriod : CommandOption where
  name := "resync-period-secs"
  variableName := some "XGB_RESYNC_PERIOD_SECS"
  takesValue := true
  description := "Seconds between reconciles of every known job (0 disables)"
  apply text s := (Text.readWord? text).map fun n => { s with resyncPeriodSeconds := n }

def printDefinition : CommandOption where
  name := "generate-crds"
  takesValue := false
  description := "Print the XGBoostJob CRD as YAML and exit"
  apply text s := (readSwitch? text).map fun b => { s with printDefinition := b }

def logFormat : CommandOption where
  name := "log-format"
  takesValue := true
  description := "Log format: json, pretty or compact (overrides XGB_LOG_FORMAT)"
  apply text s := (LogFormat.ofName text).toOption.map fun f => { s with logFormat := some f }

def logFilter : CommandOption where
  name := "log-level"
  takesValue := true
  description := "Log filter, e.g. \"info,xgboost_operator=debug\" (overrides XGB_LOG_LEVEL)"
  apply text s := some { s with logFilter := some text }

/-- All options, in the order in which the environment is asked for them. -/
def all : List CommandOption :=
  [threadiness, gang, scheduler, watchedNamespace, expectationsTimeout, resyncPeriod, printDefinition,
    logFormat, logFilter]

end CommandOption

end TrainingJobs
