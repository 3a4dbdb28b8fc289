/-
Names, labels and keys: everything that is derived from the identity of a job.

Pods and services are not remembered but recognised. What the operator creates for a slot of a job carries
the job's group and name, the lowercase replica type and the index as labels, and its name is made of the
same three parts; what it later finds in the store is sorted back into slots by these labels. A job itself
goes by the key `namespace/name`.
-/
import TrainingJobs.Error
import TrainingJobs.Job.Basic
import TrainingJobs.Text.Lowercase

set_option autoImplicit false

namespace TrainingJobs

/-- A set of labels. -/
abbrev Labels := Dict String String

namespace Label

/-- The label with the API group of the owning job. -/
def group : String := "group-name"

def jobName : String := "job-name"

def replicaType : String := "replica-type"

def replicaIndex : String := "replica-index"

def role : String := "job-role"

/-- The annotation that ties a pod to its pod group. -/
def podGroup : String := "scheduling.k8s.io/group-name"

end Label

/-- A text without slashes: each becomes a dash. -/
def dashed (s : String) : String :=
  String.ofList (s.toList.map fun c => if c = '/' then '-' else c)

namespace Labels

/-- Whether all labels of `selector` are among `labels`, with the same values (`matches_selector`). -/
def selectedBy (labels selector : Labels) : Bool :=
  selector.entries.all fun e => labels.get? e.1 == some e.2

/-- A selector as text: equations, commas between (`label_selector`). -/
def selectorText (selector : Labels) : String :=
  ",".intercalate (selector.entries.map fun e => e.1 ++ "=" ++ e.2)

/-- The labels of everything that belongs to a job of the group (`group_labels`). -/
def ofGroup (group : String) : Labels := Dict.empty.insert Label.group group

/-- The labels of everything that belongs to one job (`job_labels`). -/
def ofJob (group jobName : String) : Labels := (ofGroup group).insert Label.jobName (dashed jobName)

/-- The labels of what belongs to one slot of a job (`replica_labels`). -/
def ofSlot (group jobName replicaType : String) (index : Nat) : Labels :=
  ((ofJob group jobName).insert Label.replicaType (Text.lowercase replicaType)).insert
    Label.replicaIndex (toString index)

end Labels

/-- The name of the pod, and of the service, of a slot (`gen_general_name`). -/
def slotName (jobName replicaType : String) (index : Nat) : String :=
  dashed (jobName ++ "-" ++ Text.lowercase replicaType ++ "-" ++ toString index)

/-- The name of the pod group of a job (`gen_pod_group_name`). -/
def podGroupName (jobName : String) : String := jobName

/-- Whether the slots of the replica type are masters (`is_master_role`). -/
def isMasterType (replicaType : String) : Bool := Text.sameUpToAsciiCase replicaType masterType

/-! ## Keys -/

/-- The key of the job with that namespace and name (`key_for`). -/
def keyFor (ns name : String) : String := ns ++ "/" ++ name

/-- The key under which a job is looked at and its records are kept (`job_key`). -/
def Job.key (job : Job) : String := keyFor job.ns job.name

/-- Splits a key at its first slash. Both parts have to be non-empty, and the second may not have another
slash. -/
def splitKey? (key : String) : Option (String × String) :=
  let ns := key.toList.takeWhile (· ≠ '/')
  match key.toList.dropWhile (· ≠ '/') with
  | [] => none
  | _ :: name =>
    if ns.isEmpty ∨ name.isEmpty ∨ name.contains '/' then none
    else some (String.ofList ns, String.ofList name)

/-- The namespace and name that a key stands for (`split_key`). -/
def splitKey (key : String) : Except OperatorError (String × String) :=
  match splitKey? key with
  | some parts => .ok parts
  | none => .error (.invalidConfig ("invalid job key: " ++ key))

/-! ## Owners -/

/-- The reference by which the job controls an object (`gen_owner_reference`). A job that was never stored cannot own
one. -/
def Job.ownerReference (job : Job) : Except OperatorError OwnerReference :=
  match job.metadata.uid with
  | none => .error (.reconcile Job.kind job.name "job has no uid")
  | some uid => .ok {
      apiVersion := Job.apiVersion
      kind := Job.kind
      name := job.name
      uid := uid
      controller := some true
      blockOwnerDeletion := some true }

/-- Whether the owner is a job. -/
def OwnerReference.isOfJob (o : OwnerReference) : Bool :=
  o.kind == Job.kind && o.apiVersion == Job.apiVersion

/-- Whether the reference is that of a job which controls the object. -/
def OwnerReference.isController (o : OwnerReference) : Bool := o.controller == some true && o.isOfJob

/-- The job that controls an object with these owners, if one does (`controller_of`). -/
def controllerOf (owners : List OwnerReference) : Option OwnerReference :=
  owners.find? OwnerReference.isController

end TrainingJobs
