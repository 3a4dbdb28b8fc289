/-
Which job specs are acceptable.

A job has exactly one master, perhaps workers, and nothing else; and in every template there is a training
container, and every container has an image. The faults are looked for type by type, in the order of the
types; the first one found is the one reported.
-/
import TrainingJobs.Error
import TrainingJobs.Job.Basic

set_option autoImplicit false

namespace TrainingJobs

/-- What is wrong with a job spec. -/
inductive SpecFault where
  | noReplicas
  | unknownType (replicaType : String)
  | noContainers (replicaType : String)
  | noImage (container replicaType : String)
  | noTrainingContainer (replicaType : String)
  /-- There should be one master replica, and another number is asked for. -/
  | severalMasters
  | noMaster
  deriving DecidableEq, Repr

namespace SpecFault

def message : SpecFault → String
  | noReplicas => "xgbReplicaSpecs must not be empty"
  | unknownType replicaType =>
    "replica type is " ++ replicaType ++ " but must be one of [\"" ++ masterType ++ "\", \"" ++ workerType
      ++ "\"]"
  | noContainers replicaType => replicaType ++ " template has no containers"
  | noImage container replicaType =>
    "image is undefined in container " ++ container ++ " of " ++ replicaType
  | noTrainingContainer replicaType =>
    "there is no container named " ++ Job.containerName ++ " in " ++ replicaType
  | severalMasters => "there must be only 1 master replica"
  | noMaster => "Master replica spec must be present"

def toError (f : SpecFault) : OperatorError := .validation f.message

end SpecFault

def Container.hasImage (c : Container) : Bool :=
  match c.image with
  | some image => !image.isEmpty
  | none => false

/-- What is wrong with one replica type, if anything is. -/
def ReplicaSpec.fault? (replicaType : String) (s : ReplicaSpec) : Option SpecFault :=
  if replicaType ≠ masterType ∧ replicaType ≠ workerType then some (.unknownType replicaType)
  else if s.containers.isEmpty then some (.noContainers replicaType)
  else
    match s.containers.find? fun c => !c.hasImage with
    | some c => some (.noImage c.name replicaType)
    | none =>
      if !(s.containers.any fun c => c.name == Job.containerName) then
        some (.noTrainingContainer replicaType)
      else if replicaType = masterType ∧ s.count ≠ 1 then some .severalMasters
      else none

/-- What is wrong with a job spec, if anything is (`validate_spec`). -/
def JobSpec.fault? (s : JobSpec) : Option SpecFault :=
  if s.replicaSpecs.isEmpty then some .noReplicas
  else
    match s.replicaSpecs.entries.findSome? fun e => e.2.fault? e.1 with
    | some fault => some fault
    | none => if s.replicaSpecs.contains masterType then none else some .noMaster

/-- Whether a job spec is acceptable. -/
def JobSpec.valid (s : JobSpec) : Bool := s.fault?.isNone

end TrainingJobs
