/-
A pass does not fail by itself.

Every error of a pass over an acceptable job is an answer of the store. While the store refuses nothing and
the job is in it (`Calm`), the answers that are left are that an object is gone already or is there already,
and both are taken care of where they arise. So each part of a pass is `Smooth`: it ends well and leaves
things calm. Only the very end of a job does not, since the job may be deleted by it, and there it is enough
that nothing fails (`succeeds_sync`).
-/
import TrainingJobs.Proofs.Outstanding
import TrainingJobs.Proofs.Serviceable

set_option autoImplicit false

namespace TrainingJobs

namespace Controller

open MemoryStore

variable {α β : Type} {a : Address} {now : Timestamp} {job : Job} {c c' : Controller MemoryStore}

/-! ## Calm -/

/-- The store refuses nothing, and the job is in it. -/
structure Calm (a : Address) (c : Controller MemoryStore) : Prop where
  failures : c.store.failures = []
  stored : ∃ job, c.store.jobs.get? a = some job

/-- Where the records are the same, nothing waits to fail that did not before. -/
theorem SameRecords.calm (h : SameRecords c c') (hc : Calm a c) : Calm a c' where
  failures := List.sublist_nil.1 (hc.failures ▸ h.failures)
  stored := hc.stored.imp fun _ => h.stored

/-- From where things are calm the step ends well, and they are calm afterwards. -/
def Smooth (a : Address) (step : ControllerM MemoryStore α) : Prop :=
  ∀ c, Calm a c → Yields step c (fun _ c' => Calm a c') fun _ _ => False

theorem smooth_pure (x : α) : Smooth a (pure x) := fun _ => id

theorem smooth_get : Smooth a get := fun _ => id

theorem smooth_tell (event : Event) : Smooth a (tell event) := fun _ hc => ⟨hc.failures, hc.stored⟩

theorem smooth_tellAll (events : List Event) : Smooth a (tellAll events) := fun _ hc =>
  ⟨hc.failures, hc.stored⟩

theorem smooth_expecting (f : Expectations → Expectations) : Smooth a (expecting f) := fun _ hc =>
  ⟨hc.failures, hc.stored⟩

theorem smooth_settle {result : Except OperatorError α} (h : ∃ x, result = .ok x) :
    Smooth a (settle result) := by
  obtain ⟨x, rfl⟩ := h
  exact smooth_pure x

/-- Steps that go smoothly do so one after the other. -/
theorem Smooth.bind {step : ControllerM MemoryStore α} {next : α → ControllerM MemoryStore β}
    (h : Smooth a step) (hnext : ∀ x, Smooth a (next x)) : Smooth a (step >>= next) := by
  intro c hc
  rw [yields_bind]
  exact (h c hc).mono (fun x c₁ hc₁ => hnext x c₁ hc₁) fun _ _ => id

/-- A step that is smooth cannot fail, so its failure need not be handled. -/
theorem Smooth.bind_attempt {step : ControllerM MemoryStore α}
    {next : Except OperatorError α → ControllerM MemoryStore β} (h : Smooth a step)
    (hnext : ∀ x, Smooth a (next (.ok x))) : Smooth a (attempt step >>= next) := by
  intro c hc
  rw [yields_bind, yields_attempt]
  exact (h c hc).mono (fun x c₁ hc₁ => hnext x c₁ hc₁) fun _ _ => False.elim

/-! ## Requests -/

section Requests

variable {objects : MemoryStore → Dict Address α} {withObjects : MemoryStore → Dict Address α → MemoryStore}

/-- A deletion that is not refused takes the object away, or finds that it is gone. -/
theorem yields_request_delete (op : StoreOp) (kind : String) (b : Address) (h : c.store.failures = []) :
    Yields (request (guarded op (delete kind objects withObjects b))) c
      (fun _ c' => c' = { c with store := removed objects withObjects b c.store })
      fun e c' => e.isNotFound = true ∧ c' = c := by
  rw [yields_request, run_guarded_of_nil op _ h, run_delete]
  by_cases hthere : (objects c.store).contains b
  · rw [if_pos hthere]
  · rw [if_neg hthere]
    exact ⟨rfl, rfl⟩

/-- A creation that is not refused makes the object, or finds that there is one already. -/
theorem yields_request_create [HasMetadata α] (op : StoreOp) (collection ns : String) (object : α)
    (h : c.store.failures = []) :
    Yields (request (guarded op (create collection objects withObjects ns object))) c
      (fun _ c' => c' = { c with store := created objects withObjects ns object c.store })
      fun e c' => (e.isTimeout = false ∧ e.isConflict = true) ∧ c' = c := by
  rw [yields_request, run_guarded_of_nil op _ h, run_create]
  by_cases hthere : (objects c.store).contains ⟨ns, nameOf object⟩
  · rw [if_pos hthere]
    exact ⟨⟨rfl, rfl⟩, rfl⟩
  · rw [if_neg hthere]

/-- A deletion that leaves the jobs alone is smooth if what follows it is, also where the object was gone. -/
theorem smooth_delete {op : StoreOp} {kind : String} {b : Address}
    {next : Except OperatorError Unit → ControllerM MemoryStore β}
    (hrest : ∀ s, (removed objects withObjects b s).failures = s.failures ∧
      (removed objects withObjects b s).jobs = s.jobs)
    (hdone : Smooth a (next (.ok ())))
    (hgone : ∀ e : OperatorError, e.isNotFound = true → Smooth a (next (.error e))) :
    Smooth a (attempt (request (guarded op (delete kind objects withObjects b))) >>= next) := by
  intro c hc
  rw [yields_bind, yields_attempt]
  -- Only these two answers are left, and what follows takes care of either.
  refine (yields_request_delete op kind b hc.failures).mono (fun _ c₁ h => ?_) fun e c₁ h => ?_
  · obtain ⟨hfailures, hjobs⟩ := hrest c.store
    subst h
    refine hdone _ ⟨hfailures.trans hc.failures, ?_⟩
    rw [hjobs]
    exact hc.stored
  · obtain ⟨hnotFound, rfl⟩ := h
    exact hgone e hnotFound c₁ hc

/-- A creation that leaves the jobs alone is smooth if what follows it is, also where there was one already. -/
theorem smooth_create [HasMetadata α] {op : StoreOp} {collection ns : String} {object : α}
    {next : Except OperatorError α → ControllerM MemoryStore β}
    (hrest : ∀ s, (created objects withObjects ns object s).failures = s.failures ∧
      (created objects withObjects ns object s).jobs = s.jobs)
    (hdone : ∀ x, Smooth a (next (.ok x)))
    (hthere : ∀ e : OperatorError, e.isTimeout = false → e.isConflict = true → Smooth a (next (.error e))) :
    Smooth a (attempt (request (guarded op (create collection objects withObjects ns object))) >>= next) := by
  intro c hc
  rw [yields_bind, yields_attempt]
  refine (yields_request_create op collection ns object hc.failures).mono (fun x c₁ h => ?_) fun e c₁ h => ?_
  · obtain ⟨hfailures, hjobs⟩ := hrest c.store
    subst h
    refine hdone x _ ⟨hfailures.trans hc.failures, ?_⟩
    rw [hjobs]
    exact hc.stored
  · obtain ⟨⟨htimeout, hconflict⟩, rfl⟩ := h
    exact hthere e htimeout hconflict c₁ hc

end Requests

/-- A deletion fails only where the object is gone, and that is fine. -/
theorem smooth_deletePod (key : ExpectationKey) (name : String) : Smooth a (deletePod job key name) := by
  unfold deletePod
  refine smooth_delete (fun _ => ⟨rfl, rfl⟩) (smooth_tell _) fun e hgone => ?_
  simp only [hgone, if_true]
  exact smooth_expecting _

/-- The deletion of a service goes as smoothly. -/
theorem smooth_deleteService (name : String) : Smooth a (deleteService job name) := by
  unfold deleteService
  refine smooth_delete (fun _ => ⟨rfl, rfl⟩) (smooth_tell _) fun e hgone => ?_
  simp only [hgone, if_true]
  exact smooth_pure _

/-- And so does that of the pod group. -/
theorem smooth_deletePodGroup : Smooth a (deletePodGroup job) := by
  unfold deletePodGroup
  have hread : Smooth a (request (ObjectStore.getPodGroup ⟨job.ns, podGroupName job.name⟩)) := by
    intro c hc
    rw [yields_request, run_getPodGroup]
    exact hc
  refine hread.bind fun group => ?_
  split
  · refine (smooth_tell _).bind fun _ => smooth_delete (fun _ => ⟨rfl, rfl⟩) (smooth_tell _) fun e hgone => ?_
    simp only [hgone, if_true]
    exact smooth_pure _
  · exact smooth_pure _

/-- A creation fails only where the name is taken, and that counts as done. There has to be a pod to create. -/
theorem smooth_createPod {key : ExpectationKey} {replicaType : String} {spec : ReplicaSpec} {index : Nat}
    (howner : ∃ owner, job.ownerReference = .ok owner)
    (htemplate : ∃ template, job.slotTemplate spec.template (Text.lowercase replicaType) index = .ok template) :
    Smooth a (createPod job key replicaType spec index) := by
  unfold createPod
  refine smooth_get.bind fun c₀ => (smooth_settle htemplate).bind fun template =>
    (smooth_tellAll _).bind fun _ => (smooth_settle howner).bind fun owner => ?_
  refine smooth_create (fun _ => ⟨rfl, rfl⟩) (fun _ => smooth_tell _) fun e htimeout hconflict => ?_
  simp only [htimeout, hconflict, Bool.false_eq_true, if_false, if_true]
  exact smooth_expecting _

/-- The same of a service, which needs a port. -/
theorem smooth_createService {key : ExpectationKey} {replicaType : String} {spec : ReplicaSpec} {index : Nat}
    (howner : ∃ owner, job.ownerReference = .ok owner) (hport : ∃ port, spec.meetingPort = .ok port) :
    Smooth a (createService job key replicaType spec index) := by
  unfold createService
  refine (smooth_settle hport).bind fun port => (smooth_settle howner).bind fun owner => ?_
  refine smooth_create (fun _ => ⟨rfl, rfl⟩) (fun _ => smooth_tell _) fun e htimeout hconflict => ?_
  simp only [htimeout, hconflict, Bool.false_eq_true, if_false, if_true]
  exact smooth_expecting _

/-! ## Replica types -/

/-- Requests for pods go smoothly in turn if each of them does. -/
theorem smooth_performPodRequests {key : ExpectationKey} {replicaType : String} {spec : ReplicaSpec} :
    ∀ requests : List PodRequest,
      (∀ r ∈ requests, Smooth a (performPodRequest job key replicaType spec r)) →
        Smooth a (performPodRequests job key replicaType spec requests)
  | [], _ => smooth_pure _
  | r :: rest, h => (h r List.mem_cons_self).bind_attempt fun _ =>
      smooth_performPodRequests rest fun r' hr' => h r' (List.mem_cons_of_mem _ hr')

/-- And so do those for services. -/
theorem smooth_createServices {key : ExpectationKey} {replicaType : String} {spec : ReplicaSpec}
    (hcreate : ∀ index, Smooth a (createService job key replicaType spec index)) :
    ∀ missing : List Nat, Smooth a (createServices job key replicaType spec missing)
  | [] => smooth_pure _
  | index :: rest => (hcreate index).bind_attempt fun _ => smooth_createServices hcreate rest

/-- A vacant slot is one of the slots. -/
theorem lt_of_mem_vacant {α : Type} {objects : List (List α)} {index : Nat} (h : index ∈ vacant objects) :
    index < objects.length := by
  obtain ⟨⟨slot, i⟩, hslot, hindex⟩ := List.mem_filterMap.1 h
  have hlt := (List.mem_zipIdx hslot).2.1
  simp only [Nat.zero_add] at hlt
  split at hindex
  · exact Option.some.inj hindex ▸ hlt
  · exact absurd hindex (by simp)

/-- What a plan creates goes into a slot of the replica type. -/
theorem lt_of_mem_missing {replicaType : String} {spec : ReplicaSpec} {pods : List Pod} {index : Nat}
    (h : index ∈ (podPlan replicaType spec pods).missing) : index < spec.slotCount := by
  have hlt := lt_of_mem_vacant h
  rwa [length_slotsOf] at hlt

/-- To bring the pods of a type in line goes smoothly. -/
theorem smooth_reconcilePods (hjob : job.Serviceable) {e : String × ReplicaSpec}
    (he : e ∈ job.spec.replicaSpecs.entries) (pods : List Pod) :
    Smooth a (reconcilePods now job e.1 e.2 pods) := by
  refine (smooth_tellAll _).bind fun _ => ?_
  unfold carryOut
  simp only
  split
  · exact smooth_pure _
  · refine smooth_get.bind fun c₀ => ?_
    split
    · exact smooth_pure _
    · refine (smooth_expecting _).bind fun _ =>
        (smooth_performPodRequests _ fun r hr => ?_).bind fun _ => smooth_pure _
      -- What a plan creates stands in a slot, and for every slot there is a template.
      rcases List.mem_append.1 hr with hr | hr
      · obtain ⟨name, -, rfl⟩ := List.mem_map.1 hr
        exact smooth_deletePod _ name
      · obtain ⟨index, hindex, rfl⟩ := List.mem_map.1 hr
        exact smooth_createPod hjob.owner (hjob.template e he index (lt_of_mem_missing hindex))

/-- And so do its services. -/
theorem smooth_reconcileServices (hjob : job.Serviceable) {e : String × ReplicaSpec}
    (he : e ∈ job.spec.replicaSpecs.entries) (services : List Service) :
    Smooth a (reconcileServices now job e.1 e.2 services) := by
  unfold reconcileServices
  simp only
  split
  · exact smooth_pure _
  · refine smooth_get.bind fun c₀ => ?_
    split
    · exact smooth_pure _
    · exact (smooth_expecting _).bind fun _ =>
        smooth_createServices (fun _ => smooth_createService hjob.owner (hjob.port e he)) _

/-- So all types do in turn, by induction. -/
theorem smooth_reconcileReplicas (hjob : job.Serviceable) (pods : List Pod) (services : List Service) :
    ∀ (entries : List (String × ReplicaSpec)) (status : JobStatus), entries ⊆ job.spec.replicaSpecs.entries →
      Smooth a (reconcileReplicas now job pods services entries status)
  | [], _, _ => smooth_pure _
  | e :: rest, status, h => by
    have he := h List.mem_cons_self
    have hrest := fun status => smooth_reconcileReplicas hjob pods services rest status
      fun _ he' => h (List.mem_cons_of_mem _ he')
    exact (smooth_reconcilePods hjob he pods).bind fun _ =>
      (smooth_reconcileServices hjob he services).bind fun _ => (hrest _).bind fun _ => smooth_pure _

/-! ## The two ways of a pass -/

/-- To write the status of a job that is stored goes smoothly. -/
theorem smooth_persist (status : JobStatus) : Smooth job.address (persist now job status) := by
  intro c hc
  obtain ⟨stored, hstored⟩ := hc.stored
  unfold persist
  split
  · rw [yields_request, run_updateJobStatus, hc.failures, takeFailure?]
    simp only [hstored, recorded]
    exact ⟨hc.failures, _, Dict.get?_insert_self _ _ _⟩
  · exact hc

/-- So a pass that brings a job in line does. -/
theorem smooth_advance (hjob : job.Serviceable) (pods : List Pod) (services : List Service) (status : JobStatus) :
    Smooth job.address (advance now job pods services status) := by
  refine (smooth_reconcileReplicas hjob pods services _ status fun _ => id).bind fun (counted, replaced) => ?_
  have hjudge : Smooth job.address (judge now job counted) := by
    unfold judge
    refine (smooth_tellAll _).bind fun _ => ?_
    -- Judging stops short only at a type whose number of replicas is missing.
    rw [show (job.judge now counted).error = none from Job.error_judgeTypes hjob.filled counted]
    exact smooth_pure _
  refine hjudge.bind fun judged => (smooth_persist judged).bind fun _ => ?_
  split
  · exact smooth_pure _
  · split
    · exact smooth_pure _
    · split
      · exact smooth_pure _
      · exact smooth_pure _

/-- To clean up pods goes smoothly, whichever of them are gone. -/
theorem smooth_cleanUpPods : ∀ pods : List Pod, Smooth a (cleanUpPods job pods)
  | [] => smooth_pure _
  | _ :: rest => (smooth_deletePod _ _).bind fun _ => (smooth_deleteService _).bind fun _ =>
      smooth_cleanUpPods rest

/-- So the end of a job ends well, whether the job is then deleted or written. -/
theorem succeeds_conclude {status : JobStatus} {failure : Option String} (hc : Calm job.address c) :
    Yields (conclude now job status failure) c (fun _ _ => True) fun _ _ => False := by
  unfold conclude
  rw [yields_bind, yields_tellAll, yields_bind]
  have hwrite : ∀ (outcome : Outcome) (status : JobStatus) (c : Controller MemoryStore), Calm job.address c →
      Yields (persist now job status >>= fun _ => pure outcome) c (fun _ _ => True) fun _ _ => False :=
    fun outcome status c hc => (((smooth_persist status).bind fun _ => smooth_pure outcome) c hc).mono
      (fun _ _ _ => trivial) fun _ _ => id
  have htold : ∀ events, Calm job.address { c with events := events } := fun _ => ⟨hc.failures, hc.stored⟩
  unfold cleanUpJob
  split
  · exact hwrite _ _ _ (htold _)
  · split
    · exact hwrite _ _ _ (htold _)
    · -- Nothing follows the deletion, so it does not matter that the job is gone.
      unfold deleteJob
      rw [yields_bind, yields_bind, yields_attempt]
      refine (yields_request_delete .deleteJob _ job.address (htold _).failures).mono (fun _ _ _ => trivial)
        fun e c₁ h => ?_
      simp only [h.1, if_true]
      trivial

/-- And the whole of a pass that ends a job does. -/
theorem succeeds_terminate {pods : List Pod} {status : JobStatus} {failure : Option String}
    (hc : Calm job.address c) :
    Yields (terminate now job pods status failure) c (fun _ _ => True) fun _ _ => False := by
  rw [terminate_eq, yields_bind]
  refine (smooth_cleanUpPods _ c hc).mono (fun _ c₁ hc₁ => ?_) fun _ _ => id
  rw [yields_bind, yields_get]
  split
  · rw [yields_bind]
    exact (smooth_deletePodGroup c₁ hc₁).mono (fun _ c₂ hc₂ => succeeds_conclude hc₂) fun _ _ => id
  · exact succeeds_conclude hc₁

/-- **A pass over an acceptable job ends well while the store refuses nothing.** -/
theorem succeeds_sync {key : String} {stored : Job} (now : Timestamp)
    (hkey : splitKey? key = some (a.ns, a.name)) (hstored : c.store.jobs.get? a = some stored)
    (haddress : stored.address = a) (hvalid : stored.withDefaults.spec.fault? = none)
    (huid : stored.metadata.uid.isSome = true) (hfailures : c.store.failures = []) :
    Yields (sync now key) c (fun _ _ => True) fun _ _ => False := by
  subst haddress
  have hc : Calm stored.withDefaults.address c := ⟨hfailures, stored, hstored⟩
  refine yields_sync_of_ways hkey hstored hvalid (fun e rest h => ?_) (fun _ _ _ => trivial)
    (fun c₁ failure h₁ _ _ => ?_) fun c₁ h₁ _ _ _ => ?_
  · rw [hfailures] at h
    exact absurd h (by simp [takeFailure?])
  · exact succeeds_terminate (h₁.toSameRecords.calm hc)
  · exact (smooth_advance (Job.serviceable_withDefaults hvalid huid) _ _ _ c₁ (h₁.toSameRecords.calm hc)).mono
      (fun _ _ _ => trivial) fun _ _ => id

end Controller

end TrainingJobs
