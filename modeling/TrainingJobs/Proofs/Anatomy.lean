/-
What a pass is made of.

Every part of a pass is put together of requests and of what the controller does with its own state in between.
The compositions follow the parts as they are defined, so each is a composition of just that part; where a part
goes on with something that it has looked up, what it goes on with has a name of its own here. Only the two ways
in which a pod is deleted are told apart by purpose: as part of a plan it is to be replaced, at the end of a job
it is cleaned up.
-/
import TrainingJobs.Proofs.Interleaving

set_option autoImplicit false

namespace TrainingJobs

open MemoryStore in
/-- Reading a job changes nothing, refused or not. -/
theorem MemoryStore.sameObjects_getJob (x : Address) (s : MemoryStore) :
    s.SameObjects ((ObjectStore.getJob x : StoreM MemoryStore (Option Job)).run s).2 := by
  rw [run_getJob]
  split
  · next hfailure => exact ⟨rfl, rfl, takeFailure?_sublist hfailure⟩
  · exact ⟨rfl, rfl, .refl _⟩

namespace Controller

/-- Judging a job is a matter of its counts alone. -/
theorem store_judge (now : Timestamp) (job : Job) (status : JobStatus) (c : Controller MemoryStore) :
    ((judge now job status).run c).2.store = c.store := by
  refine Yields.run (P := fun c' => c'.store = c.store) ?_
  unfold judge
  rw [yields_bind, yields_tellAll]
  split <;> rfl

/-- What is done when a creation was refused, with what is told if it has to be given up. -/
def creationRefused (key : ExpectationKey) (warning : Event) (e : OperatorError) : ControllerM MemoryStore Unit :=
  if e.isTimeout then pure ()
  else if e.isConflict then expecting fun x => x.creationObserved key
  else do
    tell warning
    throw e

/-- What is done about a job whose time to live has been looked up. -/
def expire (job : Job) : Option Int → ControllerM MemoryStore Cleanup
  | none => return .kept
  | some remaining => do
    if 0 < remaining then return .due ⟨remaining.toNat⟩
    deleteJob job
    return .deleted

/-- How bringing a job to its end goes on when it is known whether the job was deleted. -/
def settleUp (now : Timestamp) (job : Job) (status : JobStatus) : Cleanup → ControllerM MemoryStore Outcome
  | .deleted => return .done
  | .due remaining => do
    persist now job status
    return .requeue remaining
  | .kept => do
    persist now job status
    return .done

/-- A pass over an acceptable job that is there to stay, when it has been looked up how long it is held up. -/
def proceed (now : Timestamp) (job : Job) : Option Duration → ControllerM MemoryStore Outcome
  | some wait => return .requeue wait
  | none => do
    if (← get).config.gang && !job.currentStatus.isFinished then
      let _ ← attempt (ensurePodGroup job)
    reconcileJob now job

/-- A pass over a job whose spec has been looked over. -/
def respond (now : Timestamp) (job : Job) : Option SpecFault → ControllerM MemoryStore Outcome
  | some fault => do
    reject now job fault
    return .done
  | none => attend now job

/-- A pass when the record of the job has been read. -/
def review (now : Timestamp) (key : String) : Option Job → ControllerM MemoryStore Outcome
  | none => do
    expecting fun x => x.deleteJob key
    return .done
  | some stored => respond now stored.withDefaults stored.withDefaults.spec.fault?

end Controller

open Controller

namespace Composition

variable {α : Type}

/-! ## Steps without a request -/

def pure (a : α) : Composition (Pure.pure a) := .own _ fun _ => rfl

def throw (e : OperatorError) : Composition (MonadExcept.throw e : ControllerM MemoryStore α) :=
  .own _ fun _ => rfl

def get : Composition (MonadState.get : ControllerM MemoryStore (Controller MemoryStore)) := .own _ fun _ => rfl

def settle (result : Except OperatorError α) : Composition (Controller.settle result) := .own _ fun _ => rfl

def tell (event : Event) : Composition (Controller.tell event) := .own _ fun _ => rfl

def tellAll (events : List Event) : Composition (Controller.tellAll events) := .own _ fun _ => rfl

def expecting (f : Expectations → Expectations) : Composition (Controller.expecting f) := .own _ fun _ => rfl

def judge (now : Timestamp) (job : Job) (status : JobStatus) : Composition (Controller.judge now job status) :=
  .own _ (store_judge now job status)

/-! ## Requests for one object -/

def deletePod (purpose : Purpose) (job : Job) (key : ExpectationKey) (name : String) :
    Composition (Controller.deletePod job key name) :=
  .bind (.attempt (.errand (.deletePod purpose ⟨job.ns, name⟩))) fun
    | .ok () => tell _
    | .error e => .choose (e.isNotFound = true) (expecting _) (.bind (tell _) fun _ => throw e)

def creationRefused (key : ExpectationKey) (warning : Event) (e : OperatorError) :
    Composition (Controller.creationRefused key warning e) :=
  .choose (e.isTimeout = true) (pure ()) <|
    .choose (e.isConflict = true) (expecting _) (.bind (tell _) fun _ => throw e)

def createPod (job : Job) (key : ExpectationKey) (replicaType : String) (spec : ReplicaSpec) (index : Nat) :
    Composition (Controller.createPod job key replicaType spec index) :=
  .bind get fun c => .bind (settle _) fun template => .bind (tellAll _) fun _ => .bind (settle _) fun owner =>
    .bind (.attempt (.errand (.createPod job.ns
        (job.podFor c.config replicaType index spec.restart template owner)))) fun
      | .ok _ => tell _
      | .error e => creationRefused key _ e

def deleteService (job : Job) (name : String) : Composition (Controller.deleteService job name) :=
  .bind (.attempt (.errand (.deleteService ⟨job.ns, name⟩))) fun
    | .ok () => tell _
    | .error e => .choose (e.isNotFound = true) (pure ()) (.bind (tell _) fun _ => throw e)

def createService (job : Job) (key : ExpectationKey) (replicaType : String) (spec : ReplicaSpec) (index : Nat) :
    Composition (Controller.createService job key replicaType spec index) :=
  .bind (settle _) fun port => .bind (settle _) fun owner =>
    .bind (.attempt (.errand (.createService job.ns (job.serviceFor replicaType index port owner)))) fun
      | .ok _ => tell _
      | .error e => creationRefused key _ e

/-! ## Plans and replica types -/

def performPodRequest (job : Job) (key : ExpectationKey) (replicaType : String) (spec : ReplicaSpec) :
    ∀ r, Composition (Controller.performPodRequest job key replicaType spec r)
  | .replace name => deletePod .restart job key name
  | .create index => createPod job key replicaType spec index

def performPodRequests (job : Job) (key : ExpectationKey) (replicaType : String) (spec : ReplicaSpec) :
    ∀ requests, Composition (Controller.performPodRequests job key replicaType spec requests)
  | [] => pure ()
  | r :: rest => .bind (.attempt (performPodRequest job key replicaType spec r)) fun
    | .ok () => performPodRequests job key replicaType spec rest
    | .error e => .bind (expecting _) fun _ => throw e

def carryOut (now : Timestamp) (job : Job) (replicaType : String) (spec : ReplicaSpec) (plan : PodPlan) :
    Composition (Controller.carryOut now job replicaType spec plan) :=
  .choose (plan.requests.isEmpty = true) (pure 0) <| .bind get fun c =>
    .choose ((!c.expectations.satisfied (.of job.key replicaType .pods) now) = true) (pure 0) <|
      .bind (expecting _) fun _ => .bind (performPodRequests _ _ _ _ plan.requests) fun _ => pure _

def reconcilePods (now : Timestamp) (job : Job) (replicaType : String) (spec : ReplicaSpec) (pods : List Pod) :
    Composition (Controller.reconcilePods now job replicaType spec pods) :=
  .bind (tellAll _) fun _ => carryOut _ _ _ _ _

def createServices (job : Job) (key : ExpectationKey) (replicaType : String) (spec : ReplicaSpec) :
    ∀ missing, Composition (Controller.createServices job key replicaType spec missing)
  | [] => pure ()
  | index :: rest => .bind (.attempt (createService job key replicaType spec index)) fun
    | .ok () => createServices job key replicaType spec rest
    | .error e => .bind (expecting _) fun _ => throw e

def reconcileServices (now : Timestamp) (job : Job) (replicaType : String) (spec : ReplicaSpec)
    (services : List Service) : Composition (Controller.reconcileServices now job replicaType spec services) :=
  .choose ((vacant (slotsOf replicaType spec.slotCount services)).isEmpty = true) (pure ()) <| .bind get fun c =>
    .choose ((!c.expectations.satisfied (.of job.key replicaType .services) now) = true) (pure ()) <|
      .bind (expecting _) fun _ => createServices _ _ _ _ _

def reconcileReplicas (now : Timestamp) (job : Job) (pods : List Pod) (services : List Service) :
    ∀ entries status, Composition (Controller.reconcileReplicas now job pods services entries status)
  | [], _ => pure _
  | (replicaType, spec) :: rest, _ =>
    .bind (reconcilePods now job replicaType spec pods) fun _ =>
      .bind (reconcileServices now job replicaType spec services) fun _ =>
        .bind (reconcileReplicas now job pods services rest _) fun _ => pure _

/-! ## Requests that leave pods and services alone -/

def updateJobStatus (job : Job) (status : JobStatus) :
    Composition (request (ObjectStore.updateJobStatus job status : StoreM MemoryStore Unit)) :=
  .errand (.other (ObjectStore.updateJobStatus job status) fun s =>
    (MemoryStore.effect_updateJobStatus job status s).sameObjects (MemoryStore.pods_recorded _ _ _)
      (MemoryStore.services_recorded _ _ _) (MemoryStore.failures_recorded _ _ _))

def getJob (x : Address) : Composition (request (ObjectStore.getJob x : StoreM MemoryStore (Option Job))) :=
  .errand (.other (ObjectStore.getJob x) (MemoryStore.sameObjects_getJob x))

def listPods (ns : String) (selector : Labels) :
    Composition (request (ObjectStore.listPods ns selector : StoreM MemoryStore (List Pod))) :=
  .errand (.other (ObjectStore.listPods ns selector) fun _ => ⟨rfl, rfl, .refl _⟩)

def listServices (ns : String) (selector : Labels) :
    Composition (request (ObjectStore.listServices ns selector : StoreM MemoryStore (List Service))) :=
  .errand (.other (ObjectStore.listServices ns selector) fun _ => ⟨rfl, rfl, .refl _⟩)

def getPodGroup (x : Address) :
    Composition (request (ObjectStore.getPodGroup x : StoreM MemoryStore (Option PodGroup))) :=
  .errand (.other (ObjectStore.getPodGroup x) fun _ => ⟨rfl, rfl, .refl _⟩)

def persist (now : Timestamp) (job : Job) (status : JobStatus) :
    Composition (Controller.persist now job status) :=
  .choose (status ≠ job.currentStatus) (updateJobStatus _ _) (pure ())

def deleteJob (job : Job) : Composition (Controller.deleteJob job) :=
  .bind (.attempt (.errand (.other (ObjectStore.deleteJob job.address) fun s =>
      (MemoryStore.effect_deleteJob job.address s).sameObjects rfl rfl rfl))) fun
    | .ok () => tell _
    | .error e => .choose (e.isNotFound = true) (pure ()) (.bind (tell _) fun _ => throw e)

def deletePodGroup (job : Job) : Composition (Controller.deletePodGroup job) :=
  .bind (getPodGroup _) fun group => .choose (group.isSome = true)
    (.bind (tell _) fun _ =>
      .bind (.attempt (.errand (.other (ObjectStore.deletePodGroup ⟨job.ns, podGroupName job.name⟩) fun s =>
          (MemoryStore.effect_deletePodGroup _ s).sameObjects rfl rfl rfl))) fun
        | .ok () => tell _
        | .error e => .choose (e.isNotFound = true) (pure ()) (.bind (tell _) fun _ => throw e))
    (pure _)

def ensurePodGroup (job : Job) : Composition (Controller.ensurePodGroup job) :=
  .bind (getPodGroup _) fun group => .choose (group.isNone = true)
    (.bind (settle _) fun owner =>
      .bind (.attempt (.errand (.other (ObjectStore.createPodGroup job.ns (job.podGroupFor owner)) fun s =>
          (MemoryStore.effect_createPodGroup job.ns (job.podGroupFor owner) s).sameObjects rfl rfl rfl))) fun
        | .ok _ => pure _
        | .error e => .choose (e.isConflict = true) (pure _) (throw e))
    (pure _)

/-! ## The two ways of a pass -/

def cleanUpPods (job : Job) : ∀ pods, Composition (Controller.cleanUpPods job pods)
  | [] => pure ()
  | _ :: rest =>
    .bind (deletePod .cleanUp job _ _) fun _ => .bind (deleteService job _) fun _ => cleanUpPods job rest

def expire (job : Job) : ∀ left, Composition (Controller.expire job left)
  | none => pure _
  | some remaining => .choose (0 < remaining) (pure _) (.bind (deleteJob job) fun _ => pure _)

def settleUp (now : Timestamp) (job : Job) (status : JobStatus) :
    ∀ cleanup, Composition (Controller.settleUp now job status cleanup)
  | .deleted => pure _
  | .due _ => .bind (persist now job status) fun _ => pure _
  | .kept => .bind (persist now job status) fun _ => pure _

def conclude (now : Timestamp) (job : Job) (status : JobStatus) (failure : Option String) :
    Composition (Controller.conclude now job status failure) :=
  .bind (tellAll _) fun _ =>
    .bind (expire job (job.timeToLive? (giveUp now failure status).settled now)) fun cleanup =>
      settleUp now job _ cleanup

def terminate (now : Timestamp) (job : Job) (pods : List Pod) (status : JobStatus) (failure : Option String) :
    Composition (Controller.terminate now job pods status failure) :=
  .bind (cleanUpPods job _) fun _ => .bind get fun c => .choose (c.config.gang = true)
    (.bind (deletePodGroup job) fun _ => conclude now job status failure)
    (conclude now job status failure)

def appraise (now : Timestamp) (job : Job) (status : JobStatus) (replaced : Nat) :
    Composition (Controller.appraise now job status replaced) :=
  .bind (judge now job status) fun judged => .bind (persist now job judged) fun _ => .own _ fun c => by
    split
    · rfl
    · split
      · rfl
      · split <;> rfl

def advance (now : Timestamp) (job : Job) (pods : List Pod) (services : List Service) (status : JobStatus) :
    Composition (Controller.advance now job pods services status) :=
  .bind (reconcileReplicas now job pods services job.spec.replicaSpecs.entries status) fun counted =>
    appraise now job counted.1 counted.2

def reconcileJob (now : Timestamp) (job : Job) : Composition (Controller.reconcileJob now job) :=
  .bind (listPods _ _) fun pods => .bind (listServices _ _) fun services => .bind get fun c =>
    .choose (((job.takenIn now).isFinished ||
        (job.exceeded? pods (c.retries.count job.key) (job.takenIn now) now).isSome) = true)
      (terminate now job pods (job.takenIn now) _) (advance now job pods services (job.takenIn now))

/-! ## A pass -/

def reject (now : Timestamp) (job : Job) (fault : SpecFault) : Composition (Controller.reject now job fault) :=
  .choose (job.currentStatus.isFailed = true) (pure ()) (.bind (tell _) fun _ => updateJobStatus _ _)

def proceed (now : Timestamp) (job : Job) : ∀ held, Composition (Controller.proceed now job held)
  | some _ => pure _
  | none => .bind get fun c => .choose ((c.config.gang && !job.currentStatus.isFinished) = true)
      (.bind (.attempt (ensurePodGroup job)) fun _ => reconcileJob now job) (reconcileJob now job)

def attend (now : Timestamp) (job : Job) : Composition (Controller.attend now job) :=
  .choose (job.isLeaving = true) (pure _) <| .bind get fun c =>
    proceed now job (c.expectations.firstPending job.expectationKeys now)

def respond (now : Timestamp) (job : Job) : ∀ fault, Composition (Controller.respond now job fault)
  | some fault => .bind (reject now job fault) fun _ => pure _
  | none => attend now job

def review (now : Timestamp) (key : String) : ∀ found, Composition (Controller.review now key found)
  | none => .bind (expecting _) fun _ => pure _
  | some stored => respond now stored.withDefaults stored.withDefaults.spec.fault?

def sync (now : Timestamp) (key : String) : Composition (Controller.sync now key) :=
  .bind (settle (splitKey key)) fun place => .bind (getJob ⟨place.1, place.2⟩) fun found => review now key found

/-! ## What the steps without a request lead to -/

section Own

variable {moves : Scene → Scene → Prop} {P : Scene → Prop} {failed : OperatorError → Scene → Prop}
  (hP : Stable moves P)
include hP

/-- What does nothing leads to where one is. -/
theorem leads_pure (a : α) : Leads moves P (pure a) (fun _ => P) failed := leads_own hP fun _ hs => hs

/-- A failure leads to where one is, too. -/
theorem leads_throw {done : α → Scene → Prop} (e : OperatorError) : Leads moves P (throw e) done fun _ => P :=
  leads_own hP fun _ hs => hs

theorem leads_get : Leads moves P get (fun c s => P s ∧ c = s.controller) failed :=
  leads_own hP fun _ hs => ⟨hs, rfl⟩

/-- What is looked up may be of no account. -/
theorem leads_look : Leads moves P get (fun _ => P) failed := leads_own hP fun _ hs => hs

/-- And so does what was computed without the controller, be it a result or an error. -/
theorem leads_settle (result : Except OperatorError α) :
    Leads moves P (settle result) (fun a s => P s ∧ result = .ok a) fun _ => P :=
  leads_own hP fun s hs => by
    rw [yields_settle]
    cases result with
    | ok a => exact ⟨hs, rfl⟩
    | error e => exact hs

/-- A change of the expectations leads on by itself, since nothing comes in between. -/
theorem leads_expecting {f : Expectations → Expectations} {Q : Scene → Prop}
    (h : ∀ s, P s → Q (s.withController (expected f s.controller))) :
    Leads moves P (expecting f) (fun _ => Q) failed :=
  leads_own hP h

end Own

end Composition

end TrainingJobs
