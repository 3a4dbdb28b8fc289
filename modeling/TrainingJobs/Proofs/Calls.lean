/-
Requests as data, and a store that refuses what it is told to refuse.

What a step asks of the store is not in its result. To speak of it a request is written down as a `StoreCall`:
any store answers it through the operation that it stands for. A `ScriptedStore` is a store in memory that goes
by a script. Each call takes one line of it, which says that the call is refused and with which error, or that
the store in memory answers; and every call is logged. So a failure can hit any call of a pass, those among them
that a store in memory never fails by itself, and afterwards the log says what was asked for.
-/
import TrainingJobs.Proofs.Steps
import TrainingJobs.Store.Memory

set_option autoImplicit false

namespace TrainingJobs

/-! ## Calls -/

/-- One request to a store. -/
inductive StoreCall where
  | getJob (a : Address)
  | updateJobStatus (job : Job) (status : JobStatus)
  | deleteJob (a : Address)
  | listPods (ns : String) (selector : Labels)
  | createPod (ns : String) (pod : Pod)
  | deletePod (a : Address)
  | listServices (ns : String) (selector : Labels)
  | createService (ns : String) (service : Service)
  | deleteService (a : Address)
  | getPodGroup (a : Address)
  | createPodGroup (ns : String) (group : PodGroup)
  | deletePodGroup (a : Address)

namespace StoreCall

/-- What is answered to a call that is not refused. -/
def Answer : StoreCall → Type
  | getJob _ => Option Job
  | listPods _ _ => List Pod
  | createPod _ _ => Pod
  | listServices _ _ => List Service
  | createService _ _ => Service
  | getPodGroup _ => Option PodGroup
  | createPodGroup _ _ => PodGroup
  | updateJobStatus _ _ | deleteJob _ | deletePod _ | deleteService _ | deletePodGroup _ => Unit

/-- The operation of a store that answers the call. -/
def op {σ : Type} [ObjectStore σ] : (call : StoreCall) → StoreM σ call.Answer
  | getJob a => ObjectStore.getJob a
  | updateJobStatus job status => ObjectStore.updateJobStatus job status
  | deleteJob a => ObjectStore.deleteJob a
  | listPods ns selector => ObjectStore.listPods ns selector
  | createPod ns pod => ObjectStore.createPod ns pod
  | deletePod a => ObjectStore.deletePod a
  | listServices ns selector => ObjectStore.listServices ns selector
  | createService ns service => ObjectStore.createService ns service
  | deleteService a => ObjectStore.deleteService a
  | getPodGroup a => ObjectStore.getPodGroup a
  | createPodGroup ns group => ObjectStore.createPodGroup ns group
  | deletePodGroup a => ObjectStore.deletePodGroup a

/-- The call only looks at what is there. -/
def reads : StoreCall → Bool
  | getJob _ | listPods _ _ | listServices _ _ | getPodGroup _ => true
  | _ => false

/-- The call is to make a new object. -/
def creates : StoreCall → Bool
  | createPod _ _ | createService _ _ | createPodGroup _ _ => true
  | _ => false

/-- The service that the call is to delete, if it is to delete one. -/
def serviceToDelete? : StoreCall → Option Address
  | deleteService x => some x
  | _ => none

/-- A call that only reads deletes no service. -/
theorem serviceToDelete?_of_reads {call : StoreCall} (h : call.reads = true) : call.serviceToDelete? = none := by
  cases call with
  | deleteService x => exact Bool.noConfusion h
  | _ => rfl

end StoreCall

/-! ## A store with a script -/

/-- A store in memory that goes by a script. -/
structure ScriptedStore where
  memory : MemoryStore
  /-- What becomes of the next calls: each is refused with an error, or answered. All later ones are answered. -/
  script : List (Option OperatorError) := []
  /-- The calls so far, those that were refused with their error. -/
  log : List (StoreCall × Option OperatorError) := []

namespace ScriptedStore

/-- The error with which the next call is refused, if it is. -/
def refusal? (s : ScriptedStore) : Option OperatorError := s.script.head?.join

/-- The store after a call that it has refused. -/
def refused (call : StoreCall) (e : OperatorError) (s : ScriptedStore) : ScriptedStore :=
  { s with script := s.script.tail, log := s.log ++ [(call, some e)] }

/-- The store after a call that the store in memory has answered. -/
def answered (call : StoreCall) (memory : MemoryStore) (s : ScriptedStore) : ScriptedStore :=
  { memory := memory, script := s.script.tail, log := s.log ++ [(call, none)] }

/-- Answers or refuses a call by the script. -/
def perform (call : StoreCall) : StoreM ScriptedStore call.Answer := fun s =>
  match s.refusal? with
  | some e => (.error e, s.refused call e)
  | none =>
    let (answer, memory) := (call.op : StoreM MemoryStore call.Answer).run s.memory
    (answer, s.answered call memory)

instance : ObjectStore ScriptedStore where
  getJob a := perform (.getJob a)
  updateJobStatus job status := perform (.updateJobStatus job status)
  deleteJob a := perform (.deleteJob a)
  listPods ns selector := perform (.listPods ns selector)
  createPod ns pod := perform (.createPod ns pod)
  deletePod a := perform (.deletePod a)
  listServices ns selector := perform (.listServices ns selector)
  createService ns service := perform (.createService ns service)
  deleteService a := perform (.deleteService a)
  getPodGroup a := perform (.getPodGroup a)
  createPodGroup ns group := perform (.createPodGroup ns group)
  deletePodGroup a := perform (.deletePodGroup a)

/-- The script never says of something that it is gone only to refuse a call. -/
def Honest (s : ScriptedStore) : Prop := ∀ e, some e ∈ s.script → e.isNotFound = false

instance (s : ScriptedStore) : Decidable s.Honest :=
  decidable_of_iff (∀ line ∈ s.script, ∀ e ∈ line, e.isNotFound = false)
    ⟨fun h e he => h (some e) he e rfl, fun h _ hline e he => h e (he ▸ hline)⟩

variable {s : ScriptedStore}

/-- An honest script never claims that something is gone. -/
theorem Honest.refusal (h : s.Honest) {e : OperatorError} (he : s.refusal? = some e) : e.isNotFound = false := by
  unfold refusal? at he
  refine h e ?_
  rcases hscript : s.script with _ | ⟨line, rest⟩
  · rw [hscript] at he
    exact absurd he (by simp)
  · rw [hscript] at he
    have hline : line = some e := by simpa using he
    exact hline ▸ List.mem_cons_self

/-- What is left of the script is no worse than the script. -/
theorem Honest.tail (h : s.Honest) {s' : ScriptedStore} (hscript : s'.script = s.script.tail) : s'.Honest := by
  intro e he
  rw [hscript] at he
  exact h e (List.mem_of_mem_tail he)

/-- Without a script nothing is refused. -/
theorem refusal?_of_nil (h : s.script = []) : s.refusal? = none := by
  unfold refusal?
  rw [h]
  rfl

end ScriptedStore

namespace Controller

open ScriptedStore

variable {c : Controller ScriptedStore}

/-- A call is refused by the script, or it ends as the store in memory answers it. -/
theorem yields_request_perform (call : StoreCall) {done : call.Answer → Controller ScriptedStore → Prop}
    {failed : OperatorError → Controller ScriptedStore → Prop} :
    Yields (request (perform call)) c done failed ↔
      match c.store.refusal? with
      | some e => failed e { c with store := c.store.refused call e }
      | none =>
        match (call.op : StoreM MemoryStore call.Answer).run c.store.memory with
        | (.ok answer, memory) => done answer { c with store := c.store.answered call memory }
        | (.error e, memory) => failed e { c with store := c.store.answered call memory } := by
  have hrun : (perform call).run c.store =
      match c.store.refusal? with
      | some e => (.error e, c.store.refused call e)
      | none => (((call.op : StoreM MemoryStore call.Answer).run c.store.memory).1,
          c.store.answered call ((call.op : StoreM MemoryStore call.Answer).run c.store.memory).2) := rfl
  rw [yields_request, hrun]
  rcases c.store.refusal? with _ | e
  · rcases (call.op : StoreM MemoryStore call.Answer).run c.store.memory with ⟨e | answer, memory⟩ <;> exact Iff.rfl
  · exact Iff.rfl

end Controller

end TrainingJobs
