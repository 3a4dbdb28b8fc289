/-
Filling in what a user left out of a job spec.

The spec that is stored stays as the user wrote it; before every use the missing parts are filled in: which
pods are cleaned up, how many replicas there are and what happens when one ends, and the port at which the
replicas meet. Replica types may be written in any case: one other spelling of each canonical name is taken
for the name itself.
-/
import TrainingJobs.Job.Basic
import TrainingJobs.Text.Lowercase

set_option autoImplicit false

namespace TrainingJobs

/-- Applies `f` to the entry of the list at index `i`, where there is one. -/
def modifyNth {α : Type} (f : α → α) : Nat → List α → List α
  | _, [] => []
  | 0, x :: rest => f x :: rest
  | i + 1, x :: rest => x :: modifyNth f i rest

namespace Container

/-- Whether the container has the port at which the replicas meet. -/
def hasMeetingPort (c : Container) : Bool := (c.ports.getD []).any fun p => p.name == some Job.portName

/-- The container with the meeting port: the default one is added behind its ports unless it has one. -/
def withMeetingPort (c : Container) : Container :=
  let ports := c.ports.getD []
  { c with ports := some (if c.hasMeetingPort then ports else ports ++ [⟨some Job.portName, Job.defaultPort⟩]) }

end Container

namespace PodSpec

/-- Where the training container stands: the first of its name, or else the first of all. -/
def trainingIndex (s : PodSpec) : Nat :=
  (s.containers.findIdx? fun c => c.name == Job.containerName).getD 0

/-- The pod spec with the meeting port on its training container (`set_default_port`). -/
def withMeetingPort (s : PodSpec) : PodSpec :=
  { s with containers := modifyNth Container.withMeetingPort s.trainingIndex s.containers }

end PodSpec

/-- The replica spec with what it leaves open filled in: one replica that is never restarted, and a meeting port
(`set_default_replicas`). -/
def ReplicaSpec.withDefaults (s : ReplicaSpec) : ReplicaSpec where
  replicas := some s.count
  restartPolicy := some s.restart
  template := { s.template with spec := s.template.spec.map PodSpec.withMeetingPort }

/-- Moves the first entry whose key is another spelling of `canonical` to that key (`normalize_replica_type`). What
stood there before is dropped. -/
def normalizeType (canonical : String) (specs : Dict String ReplicaSpec) : Dict String ReplicaSpec :=
  match specs.entries.find? fun e => Text.sameUpToAsciiCase e.1 canonical && e.1 != canonical with
  | some e => (specs.erase e.1).insert canonical e.2
  | none => specs

/-- The job spec with its types under their usual names and what they leave open filled in (`set_defaults`). -/
def JobSpec.withDefaults (s : JobSpec) : JobSpec where
  runPolicy := { s.runPolicy with cleanPodPolicy := some s.runPolicy.cleaning }
  replicaSpecs :=
    (normalizeType masterType (normalizeType workerType s.replicaSpecs)).mapValues ReplicaSpec.withDefaults

def Job.withDefaults (job : Job) : Job := { job with spec := job.spec.withDefaults }

end TrainingJobs
