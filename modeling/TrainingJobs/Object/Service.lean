/-
Services: stable names under which pods are reached.
-/
import TrainingJobs.Object.Pod

set_option autoImplicit false

namespace TrainingJobs

structure ServicePort where
  name : Option String
  port : Int
  deriving DecidableEq, Repr, Inhabited

/-- What a service stands for. -/
structure ServiceSpec where
  /-- The address of the service; `None` when its name stands for the pods directly. -/
  clusterIp : Option String := none
  /-- The labels of the pods that are reached. -/
  selector : Option (Dict String String) := none
  ports : Option (List ServicePort) := none
  deriving DecidableEq, Inhabited

structure Service where
  metadata : Metadata := {}
  spec : Option ServiceSpec := none
  deriving DecidableEq, Inhabited

instance : HasMetadata Service where
  metadata := Service.metadata
  withMetadata object m := { object with metadata := m }

/-! ## JSON form -/

namespace ServicePort

def encode (p : ServicePort) : Json :=
  .ofFields [("name", p.name.map .str), ("port", some (.int p.port))]

def decode (j : Json) : Option ServicePort := do
  let m ← j.members?
  some {
    name := ← Json.optional m "name" Json.decodeString
    port := ← Json.filled m "port" (Json.decodeInt 32) 0 }

end ServicePort

namespace ServiceSpec

def encode (s : ServiceSpec) : Json :=
  .ofFields [("clusterIP", s.clusterIp.map .str), ("selector", s.selector.map .ofStrings),
    ("ports", s.ports.map (.ofList ServicePort.encode))]

def decode (j : Json) : Option ServiceSpec := do
  let m ← j.members?
  some {
    clusterIp := ← Json.optional m "clusterIP" Json.decodeString
    selector := ← Json.optional m "selector" (Json.decodeDict Json.decodeString)
    ports := ← Json.optional m "ports" (Json.decodeList ServicePort.decode) }

end ServiceSpec

namespace Service

def encode (s : Service) : Json :=
  .ofFields [("apiVersion", some (.str "v1")), ("kind", some (.str "Service")),
    ("metadata", some s.metadata.encode), ("spec", s.spec.map ServiceSpec.encode)]

def decode (j : Json) : Option Service := do
  let m ← j.members?
  guard (namesKind m "v1" "Service")
  some {
    metadata := ← Json.filled m "metadata" Metadata.decode {}
    spec := ← Json.optional m "spec" ServiceSpec.decode }

end Service

end TrainingJobs
