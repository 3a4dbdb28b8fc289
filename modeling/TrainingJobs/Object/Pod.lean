/-
Pods, and the templates they are made from.

Only the parts of a pod that the operator reads or writes are kept. A field that may be missing is an
`Option`, also where the empty list would mean the same, because what is read has to be written back as it
was.
-/
import TrainingJobs.Object.Metadata
import TrainingJobs.Tally

set_option autoImplicit false

namespace TrainingJobs

/-- Where the value of an environment variable is taken from, when it is not given. -/
structure EnvSource where
  fieldPath : Option String
  deriving DecidableEq, Repr, Inhabited

structure EnvVar where
  name : String
  value : Option String
  valueFrom : Option EnvSource
  deriving DecidableEq, Repr, Inhabited

structure ContainerPort where
  name : Option String
  containerPort : Int
  deriving DecidableEq, Repr, Inhabited

structure Container where
  name : String
  image : Option String
  env : Option (List EnvVar)
  ports : Option (List ContainerPort)
  deriving DecidableEq, Repr, Inhabited

structure PodSpec where
  containers : List Container := []
  /-- The containers that run before them. -/
  initContainers : Option (List Container) := none
  restartPolicy : Option String := none
  /-- Who places the pod. -/
  schedulerName : Option String := none
  /-- The labels a node needs to run the pod. -/
  nodeSelector : Option (Dict String String) := none
  deriving DecidableEq, Inhabited

/-- What pods are made from. -/
structure PodTemplate where
  metadata : Option Metadata := none
  spec : Option PodSpec := none
  deriving DecidableEq, Inhabited

/-- The last report on one container of a pod. -/
structure ContainerStatus where
  name : String
  /-- How often it was started again. -/
  restartCount : Int32
  image : String
  imageId : String
  ready : Bool
  /-- Whether its state is known, and if it has ended, the exit code. -/
  state : Option (Option Int)
  deriving DecidableEq, Repr, Inhabited

/-- The last report on a pod. -/
structure PodStatus where
  /-- Where the pod is in its life: `Pending`, `Running`, `Succeeded`, `Failed` or something else. -/
  phase : Option String := none
  containerStatuses : Option (List ContainerStatus) := none
  initContainerStatuses : Option (List ContainerStatus) := none
  deriving DecidableEq, Repr, Inhabited

/-- A pod. -/
structure Pod where
  metadata : Metadata := {}
  spec : Option PodSpec := none
  status : Option PodStatus := none
  deriving DecidableEq, Inhabited

instance : HasMetadata Pod where
  metadata := Pod.metadata
  withMetadata object m := { object with metadata := m }

namespace Pod

def phase? (p : Pod) : Option String := p.status.bind (·.phase)

/-- The exit code of the named container, if it has ended. Of several reports on that name the first
counts. -/
def exitCode? (p : Pod) (container : String) : Option Int := do
  let status ← p.status
  let reports ← status.containerStatuses
  let report ← reports.find? fun r => r.name == container
  report.state.join

def isLeaving (p : Pod) : Bool := p.metadata.deletionTimestamp.isSome

/-- The pod in another phase; the rest of its status stays. -/
def withPhase (p : Pod) (phase : String) : Pod :=
  { p with status := some { p.status.getD {} with phase := some phase } }

end Pod

/-! ## JSON form -/

namespace EnvSource

def encode (s : EnvSource) : Json :=
  .ofFields [("fieldRef", s.fieldPath.map fun path => .obj [("fieldPath", .str path)])]

def decode (j : Json) : Option EnvSource := do
  let m ← j.members?
  let fieldPath ← Json.optional m "fieldRef" fun j => do
    Json.filled (← j.members?) "fieldPath" Json.decodeString ""
  some ⟨fieldPath⟩

end EnvSource

namespace EnvVar

def encode (v : EnvVar) : Json :=
  .ofFields [("name", some (.str v.name)), ("value", v.value.map .str),
    ("valueFrom", v.valueFrom.map EnvSource.encode)]

def decode (j : Json) : Option EnvVar := do
  let m ← j.members?
  some {
    name := ← Json.filled m "name" Json.decodeString ""
    value := ← Json.optional m "value" Json.decodeString
    valueFrom := ← Json.optional m "valueFrom" EnvSource.decode }

end EnvVar

namespace ContainerPort

def encode (p : ContainerPort) : Json :=
  .ofFields [("name", p.name.map .str), ("containerPort", some (.int p.containerPort))]

def decode (j : Json) : Option ContainerPort := do
  let m ← j.members?
  some {
    name := ← Json.optional m "name" Json.decodeString
    containerPort := ← Json.filled m "containerPort" (Json.decodeInt 32) 0 }

end ContainerPort

namespace Container

def encode (c : Container) : Json :=
  .ofFields [("name", some (.str c.name)), ("image", c.image.map .str),
    ("env", c.env.map (.ofList EnvVar.encode)), ("ports", c.ports.map (.ofList ContainerPort.encode))]

def decode (j : Json) : Option Container := do
  let m ← j.members?
  some {
    name := ← Json.filled m "name" Json.decodeString ""
    image := ← Json.optional m "image" Json.decodeString
    env := ← Json.optional m "env" (Json.decodeList EnvVar.decode)
    ports := ← Json.optional m "ports" (Json.decodeList ContainerPort.decode) }

end Container

namespace PodSpec

def encode (s : PodSpec) : Json :=
  .ofFields [("containers", some (.ofList Container.encode s.containers)),
    ("initContainers", s.initContainers.map (.ofList Container.encode)),
    ("restartPolicy", s.restartPolicy.map .str), ("schedulerName", s.schedulerName.map .str),
    ("nodeSelector", s.nodeSelector.map .ofStrings)]

def decode (j : Json) : Option PodSpec := do
  let m ← j.members?
  some {
    containers := ← Json.filled m "containers" (Json.decodeList Container.decode) []
    initContainers := ← Json.optional m "initContainers" (Json.decodeList Container.decode)
    restartPolicy := ← Json.optional m "restartPolicy" Json.decodeString
    schedulerName := ← Json.optional m "schedulerName" Json.decodeString
    nodeSelector := ← Json.optional m "nodeSelector" (Json.decodeDict Json.decodeString) }

end PodSpec

namespace PodTemplate

def encode (t : PodTemplate) : Json :=
  .ofFields [("metadata", t.metadata.map Metadata.encode), ("spec", t.spec.map PodSpec.encode)]

def decode (j : Json) : Option PodTemplate := do
  let m ← j.members?
  some {
    metadata := ← Json.optional m "metadata" Metadata.decode
    spec := ← Json.optional m "spec" PodSpec.decode }

end PodTemplate

namespace ContainerStatus

def encodeState (exitCode : Option Int) : Json :=
  .ofFields [("terminated", exitCode.map fun code => .obj [("exitCode", .int code)])]

def decodeState (j : Json) : Option (Option Int) := do
  Json.optional (← j.members?) "terminated" fun j => do
    Json.filled (← j.members?) "exitCode" (Json.decodeInt 32) 0

def encode (s : ContainerStatus) : Json :=
  .ofFields [("name", some (.str s.name)), ("restartCount", some (.ofInt32 s.restartCount)),
    ("image", some (.str s.image)), ("imageID", some (.str s.imageId)), ("ready", some (.bool s.ready)),
    ("state", s.state.map encodeState)]

def decode (j : Json) : Option ContainerStatus := do
  let m ← j.members?
  some {
    name := ← Json.filled m "name" Json.decodeString ""
    restartCount := ← Json.filled m "restartCount" Json.decodeInt32 0
    image := ← Json.filled m "image" Json.decodeString ""
    imageId := ← Json.filled m "imageID" Json.decodeString ""
    ready := ← Json.filled m "ready" Json.decodeBool false
    state := ← Json.optional m "state" decodeState }

end ContainerStatus

namespace PodStatus

def encode (s : PodStatus) : Json :=
  .ofFields [("phase", s.phase.map .str),
    ("containerStatuses", s.containerStatuses.map (.ofList ContainerStatus.encode)),
    ("initContainerStatuses", s.initContainerStatuses.map (.ofList ContainerStatus.encode))]

def decode (j : Json) : Option PodStatus := do
  let m ← j.members?
  some {
    phase := ← Json.optional m "phase" Json.decodeString
    containerStatuses := ← Json.optional m "containerStatuses" (Json.decodeList ContainerStatus.decode)
    initContainerStatuses :=
      ← Json.optional m "initContainerStatuses" (Json.decodeList ContainerStatus.decode) }

end PodStatus

/-- Whether the version and kind that an object of the platform names, if it names any, are the given
ones. -/
def namesKind (members : List (String × Json)) (version kind : String) : Bool :=
  members.all fun m =>
    if m.1 == "apiVersion" then Json.decodeString m.2 == some version
    else if m.1 == "kind" then Json.decodeString m.2 == some kind
    else true

namespace Pod

def encode (p : Pod) : Json :=
  .ofFields [("apiVersion", some (.str "v1")), ("kind", some (.str "Pod")),
    ("metadata", some p.metadata.encode), ("spec", p.spec.map PodSpec.encode),
    ("status", p.status.map PodStatus.encode)]

def decode (j : Json) : Option Pod := do
  let m ← j.members?
  guard (namesKind m "v1" "Pod")
  some {
    metadata := ← Json.filled m "metadata" Metadata.decode {}
    spec := ← Json.optional m "spec" PodSpec.decode
    status := ← Json.optional m "status" PodStatus.decode }

end Pod

end TrainingJobs
