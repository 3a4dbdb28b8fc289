/-
What the parts of a pass leave alone.

A part of a pass is made of requests, of changes to the expectations under one key, and of events. It keeps a
relation when its requests and those changes do, so each lemma here asks for just the requests that the part
makes: a relation that survives deletions only is kept by the cleaning up of pods, and one that survives
creations only by the making of services.
-/
import TrainingJobs.Proofs.Calls

set_option autoImplicit false

namespace TrainingJobs

namespace Controller

variable {σ : Type} [ObjectStore σ]

/-- The last part of bringing a job to its end: the failure is told, and the job is deleted or its status
written. -/
def conclude (now : Timestamp) (job : Job) (status : JobStatus) (failure : Option String) :
    ControllerM σ Outcome := do
  tellAll (failure.toList.map (job.normalEvent Reason.jobFailed))
  match ← cleanUpJob now job (giveUp now failure status).settled with
  | .deleted => return .done
  | .due remaining =>
    persist now job (giveUp now failure status).settled
    return .requeue remaining
  | .kept =>
    persist now job (giveUp now failure status).settled
    return .done

/-- A job is brought to its end by cleaning up, and what is left to do then is to conclude. -/
theorem terminate_eq (now : Timestamp) (job : Job) (pods : List Pod) (status : JobStatus) (failure : Option String) :
    (terminate now job pods status failure : ControllerM σ Outcome) =
      cleanUpPods job (pods.filter fun p => p.isCleanedUp job.spec.runPolicy.cleaning) >>= fun _ => get >>= fun c =>
        if c.config.gang then deletePodGroup job >>= fun _ => conclude now job status failure
        else conclude now job status failure := rfl

/-- The last part of bringing a job in line, when all pods are counted and `replaced` of them are being replaced:
the job is judged and its status written. -/
def appraise (now : Timestamp) (job : Job) (status : JobStatus) (replaced : Nat) : ControllerM σ Outcome := do
  let status ← judge now job status
  persist now job status
  if 0 < replaced then return .backoff
  if status.isFinished then return .wait
  match job.deadlineSeconds? status now with
  | some seconds => return .requeue (.ofSeconds seconds)
  | none => return .wait

variable {R : Controller σ → Controller σ → Prop} (hR : Frame R)
include hR

/-! ## Requests for one object -/

/-- To delete a pod keeps what the request does, and what it does to have seen it gone already. -/
theorem keeps_deletePod {job : Job} {key : ExpectationKey} {name : String}
    (hdelete : ∀ c, R c (requested (ObjectStore.deletePod ⟨job.ns, name⟩) c))
    (hseen : ∀ c, R c (expected (fun x => x.deletionObserved key) c)) :
    Keeps R (deletePod job key name : ControllerM σ Unit) := by
  refine hR.bind (keeps_attempt (keeps_request hdelete)) fun answer => ?_
  cases answer with
  | ok _ => exact hR.tell _
  | error e =>
    change Keeps R (if e.isNotFound then _ else _)
    split
    · -- A pod that is gone already counts as seen to go.
      exact keeps_expecting hseen
    · exact hR.bind (hR.tell _) fun _ => hR.throw _

omit [ObjectStore σ] in
/-- The relation, where it starts from controllers that are set up in one way and leads to such. -/
theorem Frame.configured (config : Config) : Frame fun c c' => c.config = config → R c c' ∧ c'.config = config where
  refl c hc := ⟨hR.refl c, hc⟩
  trans h₁ h₂ hc :=
    have hc₁ := h₁ hc
    have hc₂ := h₂ hc₁.2
    ⟨hR.trans hc₁.1 hc₂.1, hc₂.2⟩
  told c events hc := ⟨hR.told c events, hc⟩

/-- To create a pod keeps what the request for any pod does that can be made for the slot, and what it does to have
seen it already. -/
theorem keeps_createPod {job : Job} {key : ExpectationKey} {replicaType : String} {spec : ReplicaSpec}
    {index : Nat}
    (hcreate : ∀ template owner c,
      job.slotTemplate spec.template (Text.lowercase replicaType) index = .ok template →
      job.ownerReference = .ok owner → R c (requested (ObjectStore.createPod job.ns
        (job.podFor c.config replicaType index spec.restart template owner)) c))
    (hseen : ∀ c, R c (expected (fun x => x.creationObserved key) c)) :
    Keeps R (createPod job key replicaType spec index : ControllerM σ Unit) := by
  intro c
  unfold createPod
  rw [yields_bind, yields_get]
  -- What comes after the look at the configuration keeps the relation from controllers that are set up like this one.
  have hR' := hR.configured c.config
  suffices hrest : Keeps (fun c₁ c' => c₁.config = c.config → R c₁ c' ∧ c'.config = c.config) _ from
    (hrest c).mono (fun _ _ h => (h rfl).1) fun _ _ h => (h rfl).1
  refine hR'.bind_settle fun template htemplate => hR'.bind (hR'.tellAll _) fun _ =>
    hR'.bind_settle fun owner howner =>
      hR'.bind (keeps_attempt (keeps_request fun c₁ hc₁ => ?_)) fun answer => ?_
  · rw [← hc₁]
    exact ⟨hcreate template owner c₁ htemplate howner, rfl⟩
  · cases answer with
    | ok _ => exact hR'.tell _
    | error e =>
      change Keeps _ (if e.isTimeout then _ else if e.isConflict then _ else _)
      split
      · -- The pod may still appear, so it stays expected.
        exact hR'.pure _
      · split
        · exact keeps_expecting fun c₁ hc₁ => ⟨hseen c₁, hc₁⟩
        · exact hR'.bind (hR'.tell _) fun _ => hR'.throw _

/-- To delete a service keeps what the request does. -/
theorem keeps_deleteService {job : Job} {name : String}
    (hdelete : ∀ c, R c (requested (ObjectStore.deleteService ⟨job.ns, name⟩) c)) :
    Keeps R (deleteService job name : ControllerM σ Unit) := by
  refine hR.bind (keeps_attempt (keeps_request hdelete)) fun answer => ?_
  cases answer with
  | ok _ => exact hR.tell _
  | error e =>
    change Keeps R (if e.isNotFound then _ else _)
    split
    · exact hR.pure _
    · exact hR.bind (hR.tell _) fun _ => hR.throw _

/-- To create a service keeps what the request for any service does that can be made for the slot. -/
theorem keeps_createService {job : Job} {key : ExpectationKey} {replicaType : String} {spec : ReplicaSpec}
    {index : Nat}
    (hcreate : ∀ port owner c, spec.meetingPort = .ok port → job.ownerReference = .ok owner →
      R c (requested (ObjectStore.createService job.ns (job.serviceFor replicaType index port owner)) c))
    (hseen : ∀ c, R c (expected (fun x => x.creationObserved key) c)) :
    Keeps R (createService job key replicaType spec index : ControllerM σ Unit) := by
  refine hR.bind_settle fun port hport => hR.bind_settle fun owner howner =>
    hR.bind (keeps_attempt (keeps_request fun c => hcreate _ _ c hport howner)) fun answer => ?_
  cases answer with
  | ok _ => exact hR.tell _
  | error e =>
    -- A timeout is let pass and a conflict lowers the record; the rest is thrown.
    change Keeps R (if e.isTimeout then _ else if e.isConflict then _ else _)
    split
    · exact hR.pure _
    · split
      · exact keeps_expecting hseen
      · exact hR.bind (hR.tell _) fun _ => hR.throw _

/-! ## Plans, replica types and the end of a job -/

/-- Requests for pods in turn keep what each of them does, and what lowering the record does; by induction
on the requests. -/
theorem keeps_performPodRequests {job : Job} {key : ExpectationKey} {replicaType : String}
    {spec : ReplicaSpec} (hlower : ∀ adds dels c, R c (expected (fun x => x.lower key adds dels) c)) :
    ∀ requests : List PodRequest,
      (∀ r ∈ requests, Keeps R (performPodRequest job key replicaType spec r : ControllerM σ Unit)) →
        Keeps R (performPodRequests job key replicaType spec requests : ControllerM σ Unit)
  | [], _ => hR.pure _
  | r :: rest, h => by
    have hrest := keeps_performPodRequests hlower rest fun r' hr' => h r' (List.mem_cons_of_mem _ hr')
    refine hR.bind (keeps_attempt (h r List.mem_cons_self)) fun answer => ?_
    cases answer with
    | ok _ => exact hrest
    | error e =>
      -- What is not asked for any more is taken out of the record.
      exact hR.bind (keeps_expecting (hlower _ _)) fun _ => hR.throw _

/-- To carry out a plan keeps what setting the record does, and what the requests of the plan do. -/
theorem keeps_carryOut {now : Timestamp} {job : Job} {replicaType : String} {spec : ReplicaSpec}
    {plan : PodPlan}
    (hset : ∀ adds dels c,
      R c (expected (fun x => x.set (.of job.key replicaType .pods) adds dels now) c))
    (hlower : ∀ adds dels c, R c (expected (fun x => x.lower (.of job.key replicaType .pods) adds dels) c))
    (hrequests : ∀ r ∈ plan.requests,
      Keeps R (performPodRequest job (.of job.key replicaType .pods) replicaType spec r : ControllerM σ Unit)) :
    Keeps R (carryOut now job replicaType spec plan : ControllerM σ Nat) := by
  unfold carryOut
  simp only
  split
  · exact hR.pure _
  · refine hR.bind hR.get fun c => ?_
    split
    · exact hR.pure _
    · exact hR.bind (keeps_expecting (hset _ _)) fun _ =>
        hR.bind (keeps_performPodRequests hR hlower _ hrequests) fun _ => hR.pure _

/-- Bringing the pods of a type in line deletes the pods that its plan replaces, and creates pods for the slots
that it finds empty. -/
theorem keeps_reconcilePods {now : Timestamp} {job : Job} {replicaType : String} {spec : ReplicaSpec}
    {pods : List Pod}
    (hset : ∀ adds dels c,
      R c (expected (fun x => x.set (.of job.key replicaType .pods) adds dels now) c))
    (hlower : ∀ adds dels c, R c (expected (fun x => x.lower (.of job.key replicaType .pods) adds dels) c))
    (hdelete : ∀ name ∈ (podPlan replicaType spec pods).restarts, ∀ c,
      R c (requested (ObjectStore.deletePod ⟨job.ns, name⟩) c))
    (hcreate : ∀ index ∈ (podPlan replicaType spec pods).missing, ∀ template owner c,
      job.slotTemplate spec.template (Text.lowercase replicaType) index = .ok template →
      job.ownerReference = .ok owner → R c (requested (ObjectStore.createPod job.ns
        (job.podFor c.config replicaType index spec.restart template owner)) c)) :
    Keeps R (reconcilePods now job replicaType spec pods : ControllerM σ Nat) := by
  refine hR.bind (hR.tellAll _) fun _ => keeps_carryOut hR hset hlower fun r hr => ?_
  -- A request of the plan deletes a pod to be replaced, or creates one that is missing.
  rcases List.mem_append.1 hr with hr | hr
  · obtain ⟨name, hname, rfl⟩ := List.mem_map.1 hr
    exact keeps_deletePod hR (hdelete name hname) (hlower 0 1)
  · obtain ⟨index, hindex, rfl⟩ := List.mem_map.1 hr
    exact keeps_createPod hR (hcreate index hindex) (hlower 1 0)

/-- Services in turn keep what each of them does. -/
theorem keeps_createServices {job : Job} {key : ExpectationKey} {replicaType : String} {spec : ReplicaSpec}
    (hlower : ∀ adds dels c, R c (expected (fun x => x.lower key adds dels) c)) :
    ∀ missing : List Nat,
      (∀ index ∈ missing, Keeps R (createService job key replicaType spec index : ControllerM σ Unit)) →
        Keeps R (createServices job key replicaType spec missing : ControllerM σ Unit)
  | [], _ => hR.pure _
  | index :: rest, hcreate => by
    have hrest := keeps_createServices hlower rest fun i hi => hcreate i (List.mem_cons_of_mem _ hi)
    refine hR.bind (keeps_attempt (hcreate index List.mem_cons_self)) fun answer => ?_
    cases answer with
    | ok _ => exact hrest
    | error e => exact hR.bind (keeps_expecting (hlower _ _)) fun _ => hR.throw _

/-- To bring services in line keeps what creating the missing ones does. -/
theorem keeps_reconcileServices {now : Timestamp} {job : Job} {replicaType : String} {spec : ReplicaSpec}
    {services : List Service}
    (hset : ∀ adds dels c,
      R c (expected (fun x => x.set (.of job.key replicaType .services) adds dels now) c))
    (hlower : ∀ adds dels c,
      R c (expected (fun x => x.lower (.of job.key replicaType .services) adds dels) c))
    (hcreate : ∀ index ∈ vacant (slotsOf replicaType spec.slotCount services), ∀ port owner c,
      spec.meetingPort = .ok port → job.ownerReference = .ok owner →
        R c (requested (ObjectStore.createService job.ns (job.serviceFor replicaType index port owner)) c)) :
    Keeps R (reconcileServices now job replicaType spec services : ControllerM σ Unit) := by
  unfold reconcileServices
  simp only
  split
  · exact hR.pure _
  · refine hR.bind hR.get fun c => ?_
    split
    · exact hR.pure _
    · exact hR.bind (keeps_expecting (hset _ _)) fun _ =>
        keeps_createServices hR hlower _ fun index hindex =>
          keeps_createService hR (hcreate index hindex) (hlower 1 0)

/-- All replica types in turn keep what pods and services of each of them do. -/
theorem keeps_reconcileReplicas {now : Timestamp} {job : Job} {pods : List Pod} {services : List Service} :
    ∀ (entries : List (String × ReplicaSpec)) (status : JobStatus),
      (∀ e ∈ entries, Keeps R (reconcilePods now job e.1 e.2 pods : ControllerM σ Nat) ∧
        Keeps R (reconcileServices now job e.1 e.2 services : ControllerM σ Unit)) →
      Keeps R (reconcileReplicas now job pods services entries status : ControllerM σ (JobStatus × Nat))
  | [], _, _ => hR.pure _
  | e :: rest, status, h => by
    have hrest := fun status => keeps_reconcileReplicas rest status
      fun e' he' => h e' (List.mem_cons_of_mem _ he')
    obtain ⟨hpods, hservices⟩ := h e List.mem_cons_self
    exact hR.bind hpods fun _ => hR.bind hservices fun _ => hR.bind (hrest _) fun _ => hR.pure _

/-- To clean up pods keeps what the two deletions for each of them do. -/
theorem keeps_cleanUpPods {job : Job}
    (hseen : ∀ replicaType c, R c (expected (fun x => x.deletionObserved (.of job.key replicaType .pods)) c)) :
    ∀ pods : List Pod,
      (∀ pod ∈ pods, ∀ c, R c (requested (ObjectStore.deletePod ⟨job.ns, nameOf pod⟩) c)) →
      (∀ pod ∈ pods, ∀ c, R c (requested (ObjectStore.deleteService ⟨job.ns, nameOf pod⟩) c)) →
        Keeps R (cleanUpPods job pods : ControllerM σ Unit)
  | [], _, _ => hR.pure _
  | pod :: rest, hpod, hservice => by
    obtain ⟨hpod, hpods⟩ := List.forall_mem_cons.1 hpod
    obtain ⟨hservice, hservices⟩ := List.forall_mem_cons.1 hservice
    exact hR.bind (keeps_deletePod hR hpod (hseen _)) fun _ =>
      hR.bind (keeps_deleteService hR hservice) fun _ => keeps_cleanUpPods hseen rest hpods hservices

/-- To delete the pod group keeps what looking for it and deleting it do. -/
theorem keeps_deletePodGroup {job : Job}
    (hread : ∀ c, R c (requested (ObjectStore.getPodGroup ⟨job.ns, podGroupName job.name⟩) c))
    (hdelete : ∀ c, R c (requested (ObjectStore.deletePodGroup ⟨job.ns, podGroupName job.name⟩) c)) :
    Keeps R (deletePodGroup job : ControllerM σ Unit) := by
  refine hR.bind (keeps_request hread) fun group => ?_
  split
  · refine hR.bind (hR.tell _) fun _ => hR.bind (keeps_attempt (keeps_request hdelete)) fun answer => ?_
    cases answer with
    | ok _ => exact hR.tell _
    | error e =>
      -- A group gone in between is as good as deleted.
      change Keeps R (if e.isNotFound then _ else _)
      split
      · exact hR.pure _
      · exact hR.bind (hR.tell _) fun _ => hR.throw _
  · exact hR.pure _

/-- To see to the pod group keeps what looking for it and creating it do. -/
theorem keeps_ensurePodGroup {job : Job}
    (hread : ∀ c, R c (requested (ObjectStore.getPodGroup ⟨job.ns, podGroupName job.name⟩) c))
    (hcreate : ∀ owner c, job.ownerReference = .ok owner →
      R c (requested (ObjectStore.createPodGroup job.ns (job.podGroupFor owner)) c)) :
    Keeps R (ensurePodGroup job : ControllerM σ Unit) := by
  refine hR.bind (keeps_request hread) fun group => ?_
  split
  · refine hR.bind_settle fun owner howner =>
      hR.bind (keeps_attempt (keeps_request fun c => hcreate owner c howner)) fun answer => ?_
    cases answer with
    | ok _ => exact hR.pure _
    | error e =>
      change Keeps R (if e.isConflict then _ else _)
      split
      · -- A group that is there by now is as good as one made.
        exact hR.pure _
      · exact hR.throw _
  · exact hR.pure _

/-- To write a status keeps what the request does. -/
theorem keeps_persist {now : Timestamp} {job : Job} {status : JobStatus}
    (hstatus : ∀ c, R c (requested (ObjectStore.updateJobStatus job { status with lastReconcileTime := some now }) c)) :
    Keeps R (persist now job status : ControllerM σ Unit) := by
  unfold persist
  split
  · exact keeps_request hstatus
  · exact hR.pure _

omit [ObjectStore σ] in
/-- What comes after a judgement only has to be looked at for the status that the job is judged to have. -/
theorem keeps_judge_bind {α : Type} {now : Timestamp} {job : Job} {status : JobStatus}
    {next : JobStatus → ControllerM σ α} (hnext : Keeps R (next (job.judge now status).status)) :
    Keeps R (judge now job status >>= next) := by
  intro c
  have htold := hR.told c (job.judge now status).events
  unfold judge
  rw [yields_bind, yields_bind, yields_tellAll]
  split
  · -- The judgement stopped short, and nothing comes after it.
    exact htold
  · exact (hnext _).mono (fun _ _ => hR.trans htold) fun _ _ => hR.trans htold

/-- What is written of a job that is brought in line is the status that it is judged to have. -/
theorem keeps_appraise {now : Timestamp} {job : Job} {status : JobStatus} (replaced : Nat)
    (hstatus : ∀ c, R c (requested (ObjectStore.updateJobStatus job
      { (job.judge now status).status with lastReconcileTime := some now }) c)) :
    Keeps R (appraise now job status replaced : ControllerM σ Outcome) := by
  refine keeps_judge_bind hR (hR.bind (keeps_persist hR hstatus) fun _ => ?_)
  split
  · exact hR.pure _
  · split
    · exact hR.pure _
    · split
      · exact hR.pure _
      · exact hR.pure _

/-- Bringing a job in line keeps what its replica types and the write of the status keep. -/
theorem keeps_advance {now : Timestamp} {job : Job} {pods : List Pod} {services : List Service}
    {status : JobStatus}
    (hreplicas : ∀ e ∈ job.spec.replicaSpecs.entries,
      Keeps R (reconcilePods now job e.1 e.2 pods : ControllerM σ Nat) ∧
        Keeps R (reconcileServices now job e.1 e.2 services : ControllerM σ Unit))
    (hstatus : ∀ status c, R c (requested (ObjectStore.updateJobStatus job status) c)) :
    Keeps R (advance now job pods services status : ControllerM σ Outcome) :=
  hR.bind (keeps_reconcileReplicas hR _ status hreplicas) fun counted =>
    keeps_appraise hR counted.2 (hstatus _)

/-- To delete a job keeps what the request does. -/
theorem keeps_deleteJob {job : Job} (hjob : ∀ c, R c (requested (ObjectStore.deleteJob job.address) c)) :
    Keeps R (deleteJob job : ControllerM σ Unit) := by
  refine hR.bind (keeps_attempt (keeps_request hjob)) fun answer => ?_
  cases answer with
  | ok _ => exact hR.tell _
  | error e =>
    change Keeps R (if e.isNotFound then _ else _)
    split
    · exact hR.pure _
    · exact hR.bind (hR.tell _) fun _ => hR.throw _

/-- What is written at the end of a job is the status that it is closed with. -/
theorem keeps_conclude {now : Timestamp} {job : Job} {status : JobStatus} {failure : Option String}
    (hjob : ∀ c, R c (requested (ObjectStore.deleteJob job.address) c))
    (hstatus : ∀ c, R c (requested (ObjectStore.updateJobStatus job
      { (giveUp now failure status).settled with lastReconcileTime := some now }) c)) :
    Keeps R (conclude now job status failure : ControllerM σ Outcome) := by
  have hpersist : Keeps R (persist now job (giveUp now failure status).settled : ControllerM σ Unit) :=
    keeps_persist hR hstatus
  have hcleanUp : Keeps R (cleanUpJob now job (giveUp now failure status).settled : ControllerM σ Cleanup) := by
    unfold cleanUpJob
    split
    · exact hR.pure _
    · split
      · exact hR.pure _
      · exact hR.bind (keeps_deleteJob hR hjob) fun _ => hR.pure _
  refine hR.bind (hR.tellAll _) fun _ => hR.bind hcleanUp fun cleanup => ?_
  -- Only a job that was deleted has no status to write.
  cases cleanup with
  | deleted => exact hR.pure _
  | due remaining => exact hR.bind hpersist fun _ => hR.pure _
  | kept => exact hR.bind hpersist fun _ => hR.pure _

/-- Bringing a job to its end keeps what its deletions and the write of the status keep. -/
theorem keeps_terminate {now : Timestamp} {job : Job} {pods : List Pod} {status : JobStatus}
    {failure : Option String}
    (hpod : ∀ pod ∈ pods, ∀ c, R c (requested (ObjectStore.deletePod ⟨job.ns, nameOf pod⟩) c))
    (hservice : ∀ pod ∈ pods, ∀ c, R c (requested (ObjectStore.deleteService ⟨job.ns, nameOf pod⟩) c))
    (hread : ∀ c, R c (requested (ObjectStore.getPodGroup ⟨job.ns, podGroupName job.name⟩) c))
    (hgroup : ∀ c, R c (requested (ObjectStore.deletePodGroup ⟨job.ns, podGroupName job.name⟩) c))
    (hjob : ∀ c, R c (requested (ObjectStore.deleteJob job.address) c))
    (hstatus : ∀ c, R c (requested (ObjectStore.updateJobStatus job
      { (giveUp now failure status).settled with lastReconcileTime := some now }) c))
    (hseen : ∀ replicaType c, R c (expected (fun x => x.deletionObserved (.of job.key replicaType .pods)) c)) :
    Keeps R (terminate now job pods status failure : ControllerM σ Outcome) := by
  -- What comes after the pods is the same whether there is a pod group to delete or not.
  have hrest : Keeps R (conclude now job status failure : ControllerM σ Outcome) :=
    keeps_conclude hR hjob hstatus
  have hcleaned : Keeps R (cleanUpPods job
      (pods.filter fun p => p.isCleanedUp job.spec.runPolicy.cleaning) : ControllerM σ Unit) :=
    keeps_cleanUpPods hR hseen _ (fun pod hmem => hpod pod (List.mem_filter.1 hmem).1)
      fun pod hmem => hservice pod (List.mem_filter.1 hmem).1
  refine hR.bind hcleaned fun _ => hR.bind hR.get fun c => ?_
  split
  · exact hR.bind (keeps_deletePodGroup hR hread hgroup) fun _ => hrest
  · exact hrest

end Controller

/-! ## A whole pass -/

namespace Controller

variable {σ : Type} [ObjectStore σ]

/-- A key that cannot be split is refused before anything is done. -/
theorem run_sync_of_unsplit {key : String} (hkey : splitKey? key = none) (now : Timestamp) (c : Controller σ) :
    (sync now key).run c = (.error (.invalidConfig ("invalid job key: " ++ key)), c) := by
  unfold sync splitKey
  rw [hkey]
  rfl

/-- A pass over a job keeps what its parts keep, whatever is known of the job that was read. -/
theorem yields_sync_of_parts {R : Controller σ → Controller σ → Prop} {P : Job → Prop} {now : Timestamp} {key : String}
    {c : Controller σ} (hR : Frame R)
    (hread : ∀ a : Address, splitKey? key = some (a.ns, a.name) → Yields (request (ObjectStore.getJob a)) c
      (fun found c₁ => R c c₁ ∧ ∀ stored, found = some stored → P stored) fun _ c₁ => R c c₁)
    (hforget : ∀ c, R c (expected (fun x => x.deleteJob key) c))
    (hparts : ∀ stored, P stored →
      (∀ fault, Keeps R (reject now stored.withDefaults fault : ControllerM σ Unit)) ∧
      Keeps R (ensurePodGroup stored.withDefaults : ControllerM σ Unit) ∧
      Keeps R (reconcileJob now stored.withDefaults : ControllerM σ Outcome)) :
    Yields (sync now key) c (fun _ c' => R c c') fun _ c' => R c c' := by
  unfold sync splitKey
  rcases hkey : splitKey? key with _ | ⟨ns, name⟩
  · exact hR.refl c
  rw [yields_bind, yields_settle]
  simp only
  rw [yields_bind]
  refine (hread ⟨ns, name⟩ hkey).mono (fun found c₁ hfound => ?_) fun _ _ h => h
  obtain ⟨hc₁, hstored⟩ := hfound
  -- From the answer on, every part of the pass keeps the relation.
  refine Yields.mono ?_ (fun _ _ => hR.trans hc₁) fun _ _ => hR.trans hc₁
  refine (?_ : Keeps R _) c₁
  cases found with
  | none => exact hR.bind (keeps_expecting hforget) fun _ => hR.pure _
  | some stored =>
    obtain ⟨hreject, hensure, hreconcile⟩ := hparts stored (hstored stored rfl)
    simp only
    split
    · exact hR.bind (hreject _) fun _ => hR.pure _
    · split
      · exact hR.pure _
      · refine hR.bind hR.get fun c => ?_
        split
        · exact hR.pure _
        · refine hR.bind hR.get fun c => ?_
          split
          · exact hR.bind (keeps_attempt hensure) fun _ => hreconcile
          · exact hreconcile

/-- A relation that no call of a kind breaks, whatever it asks for, and no change of what is expected. -/
structure Enduring (p : StoreCall → Prop) (R : Controller σ → Controller σ → Prop) : Prop extends Frame R where
  call : ∀ call : StoreCall, p call → ∀ c, R c (requested (call.op : StoreM σ call.Answer) c)
  expected : ∀ f c, R c (Controller.expected f c)

namespace Enduring

variable {p : StoreCall → Prop} {R : Controller σ → Controller σ → Prop} (now : Timestamp)

section WithoutCreation

variable (h : Enduring p R) (hp : ∀ call : StoreCall, call.creates = false → p call)
include h hp

/-- A job is turned down without creating anything. -/
theorem reject (job : Job) (fault : SpecFault) : Keeps R (reject now job fault : ControllerM σ Unit) := by
  unfold Controller.reject
  simp only
  split
  · exact h.toFrame.pure _
  · exact h.toFrame.bind (h.toFrame.tell _) fun _ => keeps_request (h.call (.updateJobStatus _ _) (hp _ rfl))

/-- A job is brought to its end without creating anything. -/
theorem terminate (job : Job) (pods : List Pod) (status : JobStatus) (failure : Option String) :
    Keeps R (terminate now job pods status failure : ControllerM σ Outcome) :=
  keeps_terminate h.toFrame (fun _ _ => h.call (.deletePod _) (hp _ rfl))
    (fun _ _ => h.call (.deleteService _) (hp _ rfl)) (h.call (.getPodGroup _) (hp _ rfl))
    (h.call (.deletePodGroup _) (hp _ rfl)) (h.call (.deleteJob _) (hp _ rfl))
    (h.call (.updateJobStatus _ _) (hp _ rfl)) fun _ => h.expected _

end WithoutCreation

variable (h : Enduring (fun _ => True) R)
include h

/-- A pass that brings a job in line keeps what is kept by all calls. -/
theorem advance (job : Job) (pods : List Pod) (services : List Service) (status : JobStatus) :
    Keeps R (advance now job pods services status : ControllerM σ Outcome) := by
  refine keeps_advance h.toFrame (fun e _ => ⟨?_, ?_⟩) fun _ => h.call (.updateJobStatus _ _) trivial
  · exact keeps_reconcilePods h.toFrame (fun _ _ => h.expected _) (fun _ _ => h.expected _)
      (fun _ _ => h.call (.deletePod _) trivial) fun _ _ _ _ c _ _ => h.call (.createPod _ _) trivial c
  · exact keeps_reconcileServices h.toFrame (fun _ _ => h.expected _) (fun _ _ => h.expected _)
      fun _ _ _ _ c _ _ => h.call (.createService _ _) trivial c

/-- A pass over a job keeps what is kept by all calls. -/
theorem reconcileJob (job : Job) : Keeps R (reconcileJob now job : ControllerM σ Outcome) := by
  have hR := h.toFrame
  refine hR.bind (keeps_request (h.call (.listPods _ _) trivial)) fun (pods : List Pod) =>
    hR.bind (keeps_request (h.call (.listServices _ _) trivial)) fun (services : List Service) =>
      hR.bind hR.get fun c => ?_
  simp only
  split
  · exact h.terminate now (fun _ _ => trivial) job pods _ _
  · exact h.advance now job pods services _

/-- **A pass keeps what every call keeps.** -/
theorem sync (key : String) : Keeps R (sync now key : ControllerM σ Outcome) := by
  refine fun c => yields_sync_of_parts (P := fun _ => True) h.toFrame (fun a _ => ?_) (h.expected _) fun stored _ => ?_
  · exact (keeps_request (h.call (.getJob a) trivial) c).mono (fun _ _ h => ⟨h, fun _ _ => trivial⟩) fun _ _ h => h
  · exact ⟨fun fault => h.reject now (fun _ _ => trivial) _ fault,
      keeps_ensurePodGroup h.toFrame (h.call (.getPodGroup _) trivial) fun _ c _ => h.call (.createPodGroup _ _) trivial c,
      h.reconcileJob now _⟩

end Enduring

end Controller

end TrainingJobs
