/-
How the replicas of a job find each other.

Every replica is told the address and port of the master, how many replicas there are, and which of them it
is: the master has rank 0, and the workers follow in the order of their index. All of it is put into the
environment of every container, whatever the template has there under the same names.
-/
import TrainingJobs.Naming

set_option autoImplicit false

namespace TrainingJobs

/-- The port of that name on the first container of that name which has one (`container_port`). -/
def ReplicaSpec.port (s : ReplicaSpec) (container port : String) : Except OperatorError Int :=
  let ports := (s.containers.filter fun c => c.name == container).flatMap fun c => c.ports.getD []
  match ports.find? fun p => p.name == some port with
  | some p => .ok p.containerPort
  | none => .error (.invalidConfig ("failed to find the port " ++ port ++ " on container " ++ container))

/-- The port at which the replicas meet, on the training container. -/
def ReplicaSpec.meetingPort (s : ReplicaSpec) : Except OperatorError Int :=
  s.port Job.containerName Job.portName

/-- Gives a variable its value: the first entry of that name gets it, or a new one is added at the end (`upsert_env`).
-/
def assignVar (name value : String) : List EnvVar → List EnvVar
  | [] => [⟨name, some value, none⟩]
  | v :: rest =>
    if v.name = name then { v with value := some value, valueFrom := none } :: rest
    else v :: assignVar name value rest

/-- Gives several variables their values, one after the other. -/
def assignVars (assignments : List (String × String)) (vars : List EnvVar) : List EnvVar :=
  assignments.foldl (fun acc a => assignVar a.1 a.2 acc) vars

/-- The container with these variables set in its environment; it has one afterwards. -/
def Container.withVars (assignments : List (String × String)) (c : Container) : Container :=
  { c with env := some (assignVars assignments (c.env.getD [])) }

/-- The template with these variables set in every container. -/
def PodTemplate.withVars (assignments : List (String × String)) (t : PodTemplate) : PodTemplate :=
  { t with spec := t.spec.map fun s => { s with containers := s.containers.map (·.withVars assignments) } }

namespace Job

/-- The rank of a slot: 0 for the master, which has no other index, and the workers after it. -/
def rank (master : ReplicaSpec) (replicaType : String) (index : Nat) : Except OperatorError Nat :=
  if isMasterType replicaType then
    if index = 0 then .ok 0
    else .error (.validation
      ("invalid master index " ++ toString index ++ ", the master must have index 0"))
  else .ok (master.slotCount + index)

/-- What the replica in a slot is told about the job, as environment variables. -/
def rendezvous (job : Job) (replicaType : String) (index : Nat) :
    Except OperatorError (List (String × String)) := do
  match job.spec.replicaSpecs.get? masterType with
  | none => .error (.validation "Master replica spec is missing")
  | some master =>
    let port ← master.meetingPort
    let rank ← rank master replicaType index
    return [("MASTER_PORT", toString port), ("MASTER_ADDR", slotName job.name masterType 0),
      ("WORLD_SIZE", toString job.totalReplicas), ("RANK", toString rank), ("PYTHONUNBUFFERED", "0")]

/-- The template for a slot: the given one, its containers told where the replicas meet (`set_cluster_spec`). -/
def slotTemplate (job : Job) (template : PodTemplate) (replicaType : String) (index : Nat) :
    Except OperatorError PodTemplate := do
  let assignments ← job.rendezvous replicaType index
  return template.withVars assignments

end Job

end TrainingJobs
