/-
The program: it reads the command line and does what that asks for.

It can print the definition of jobs, which the platform needs to be told before there can be jobs. To operate
jobs it would have to reach a cluster; it makes no attempt to, and ends as it does where none can be reached.
-/
import TrainingJobs.CommandLine.Reader
import TrainingJobs.CustomResource.Definition

set_option autoImplicit false

namespace TrainingJobs

def CommandOption.helpLines (o : CommandOption) : List String :=
  let value := if o.takesValue then " <VALUE>" else ""
  let source := match o.variableName with
    | some variableName => " [env: " ++ variableName ++ "]"
    | none => ""
  ["      --" ++ o.name ++ value, "          " ++ o.description ++ source]

def helpText : String :=
  "\n".intercalate (["Kubernetes operator for distributed XGBoost training jobs", "",
    "Usage: xgboost-operator [OPTIONS]", "", "Options:"] ++
    CommandOption.all.flatMap CommandOption.helpLines ++
    ["  -h, --help", "          Print help", "  -V, --version", "          Print version"])

def versionText : String := "xgboost-operator 0.1.0"

/-- The variables that the program looks at. -/
def knownVariables : List String := CommandOption.all.filterMap (·.variableName) ++ LogSettings.variableNames

/-- The variables of the environment that the program looks at. -/
def readEnvironment : IO Environment := do
  let values ← knownVariables.mapM fun name => do return (name, ← IO.getEnv name)
  return fun name => (values.lookup name).join

/-- Does what the settings ask for. What an operator does with a cluster is in `Operator` and `Controller`, against a store
of objects; there is no client for a real one here. So where the program is to operate jobs it does not try to reach
a cluster, and always ends with the message for one that cannot be reached. -/
def runProgram (settings : Settings) : IO UInt32 := do
  if settings.printDefinition then
    IO.println "---"
    IO.println ResourceDefinition.job.encode.render
    return 0
  else
    IO.eprintln "Error: Failed to create Kubernetes client"
    return 1

/-- Says why the command line does not start the operator. -/
def explainUsage (e : UsageError) : IO UInt32 := do
  match e with
  | .helpWanted => IO.println helpText
  | .versionWanted => IO.println versionText
  | _ =>
    IO.eprintln e.message
    IO.eprintln "\nFor more information, try '--help'."
  return UInt32.ofNat e.exitCode

end TrainingJobs

def main (arguments : List String) : IO UInt32 := do
  let env ← TrainingJobs.readEnvironment
  match TrainingJobs.Settings.read arguments env with
  | .ok settings => TrainingJobs.runProgram settings
  | .error e => TrainingJobs.explainUsage e
