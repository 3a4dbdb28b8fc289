/-
What is done for the slots of a replica type, call by call.

Pods may be listed in any order, several for one slot, for slots that the type does not have, or with labels that
are no numerals. Of each slot only the first listed pod counts (`seated?`), and what there is to do can be said
slot by slot: a pod that failed and may do better next time is deleted, and a pod is created where there is none.
`slot_plan_exact` says that just these calls are made, deletions first and each in the order of the slots, up to
the first that fails, and what the result tells about it.
-/
import Mathlib.Data.List.Basic
import TrainingJobs.Proofs.Arrangement
import TrainingJobs.Proofs.Ledger
import TrainingJobs.Proofs.Meeting

set_option autoImplicit false

namespace TrainingJobs

/-! ## Slot by slot -/

/-- The pod that counts in a slot: the first listed of those with the replica type and the index of the slot. -/
def seated? (replicaType : String) (pods : List Pod) (index : Nat) : Option Pod :=
  pods.find? fun p => labelOf? p Label.replicaType == some (Text.lowercase replicaType) && slotIndex? p == some index

/-- The pods that count for a replica type, in the order of their slots. -/
def seatedPods (replicaType : String) (spec : ReplicaSpec) (pods : List Pod) : List Pod :=
  (List.range spec.slotCount).filterMap (seated? replicaType pods)

/-- The pod failed, and its training container has left no exit code or one from 128 up. -/
def Pod.MayRecover (p : Pod) : Prop :=
  p.phase? = some "Failed" ∧ ∀ code ∈ p.exitCode? Job.containerName, 128 ≤ code

instance (p : Pod) : Decidable p.MayRecover := inferInstanceAs (Decidable (_ ∧ _))

/-- The test for a replacement says that the pod may recover. -/
theorem Pod.needsReplacement_iff {p : Pod} : p.needsReplacement = true ↔ p.MayRecover := by
  unfold needsReplacement MayRecover isRetryable
  rw [Bool.and_eq_true, beq_iff_eq]
  rcases p.exitCode? Job.containerName with _ | code <;> simp

namespace Job

/-- The deletions that are due for a replica type: of the pods that count, those that are replaced under its
restart policy. -/
def dueDeletions (job : Job) (replicaType : String) (spec : ReplicaSpec) (pods : List Pod) : List StoreCall :=
  ((seatedPods replicaType spec pods).filter fun p => spec.restart = .exitCode ∧ p.MayRecover).map fun p =>
    .deletePod ⟨job.ns, nameOf p⟩

/-- The creations that are due for a replica type: a pod for every slot in which none counts. -/
def dueCreations (job : Job) (config : Config) (replicaType : String) (spec : ReplicaSpec) (pods : List Pod) :
    List StoreCall :=
  ((List.range spec.slotCount).filter fun index => (seated? replicaType pods index).isNone).filterMap fun index =>
    (job.podOf? config (replicaType, index)).map (.createPod job.ns)

end Job

/-! ## The plan -/

namespace Controller

variable {replicaType : String} {spec : ReplicaSpec} {pods : List Pod}

/-- To sort the objects of a replica type and to look for the type and the index of a slot at once is the same. -/
theorem slot_eq_filter {α : Type} [HasMetadata α] (replicaType : String) (objects : List α) (index : Nat) :
    (ofReplicaType replicaType objects).filter (fun o => slotIndex? o == some index) =
      objects.filter fun o =>
        labelOf? o Label.replicaType == some (Text.lowercase replicaType) && slotIndex? o == some index := by
  unfold ofReplicaType
  rw [List.filter_filter]
  exact List.filter_congr fun o _ => Bool.and_comm _ _

/-- A plan has in its seats the pods that count. -/
theorem seated_podPlan : (podPlan replicaType spec pods).seated = seatedPods replicaType spec pods := by
  unfold podPlan PodPlan.of slotsOf seatedPods
  simp only [slots_eq, List.filterMap_map]
  refine List.filterMap_congr fun index _ => ?_
  rw [Function.comp, slot_eq_filter, List.head?_filter]
  rfl

/-- Of slots that are given by their index, the empty ones. -/
theorem vacant_map_range {α : Type} (slot : Nat → List α) (count : Nat) :
    vacant ((List.range count).map slot) = (List.range count).filter fun index => (slot index).isEmpty := by
  have hindexed : ((List.range count).map slot).zipIdx = (List.range count).map fun index => (slot index, index) := by
    refine List.ext_getElem (by simp) fun n h₁ h₂ => ?_
    simp
  rw [vacant_eq_map, hindexed, List.filter_map, List.map_map]
  exact List.map_id' _

/-- Vacant are the slots for which no listed object has the replica type and the index. -/
theorem vacant_slotsOf {α : Type} [HasMetadata α] (replicaType : String) (count : Nat) (objects : List α) :
    vacant (slotsOf replicaType count objects) = (List.range count).filter fun index => (objects.find? fun o =>
      labelOf? o Label.replicaType == some (Text.lowercase replicaType) && slotIndex? o == some index).isNone := by
  unfold slotsOf
  rw [slots_eq, vacant_map_range]
  refine List.filter_congr fun index _ => ?_
  rw [slot_eq_filter, Bool.eq_iff_iff, List.isEmpty_iff, List.filter_eq_nil_iff, Option.isNone_iff_eq_none,
    List.find?_eq_none]

/-- A plan asks for pods in the slots in which none counts. -/
theorem missing_podPlan : (podPlan replicaType spec pods).missing =
    (List.range spec.slotCount).filter fun index => (seated? replicaType pods index).isNone :=
  vacant_slotsOf replicaType spec.slotCount pods

/-- A plan replaces the pods that count and may recover, where the restart policy goes by exit codes. -/
theorem restarts_podPlan : (podPlan replicaType spec pods).restarts =
    ((seatedPods replicaType spec pods).filter fun p => spec.restart = .exitCode ∧ p.MayRecover).map nameOf := by
  have hseated : (podPlan replicaType spec pods).seated = seatedPods replicaType spec pods := seated_podPlan
  unfold podPlan PodPlan.of at hseated ⊢
  simp only at hseated ⊢
  rw [hseated]
  by_cases hrestart : spec.restart = .exitCode
  · rw [if_pos hrestart]
    refine congrArg (List.map nameOf) (List.filter_congr fun p _ => ?_)
    rw [Bool.eq_iff_iff, Pod.needsReplacement_iff, decide_eq_true_eq, and_iff_right hrestart]
  · simp [hrestart]

/-- The request for the pod of a slot is a call to create the pod that there is for the slot. -/
theorem podCall?_create {job : Job} (config : Config) (he : (replicaType, spec) ∈ job.spec.replicaSpecs.entries)
    (index : Nat) : podCall? config job replicaType spec (.create index) =
      (job.podOf? config (replicaType, index)).map (.createPod job.ns) := by
  unfold podCall? Job.podOf?
  simp only [Dict.get?_eq_some_iff.2 he, Option.bind_eq_bind, Option.bind_some]
  rcases job.slotTemplate spec.template (Text.lowercase replicaType) index with _ | template
  · rfl
  · rcases job.ownerReference with _ | owner <;> rfl

/-- The requests of a plan stand for the calls that are due. -/
theorem filterMap_podCall? {job : Job} (config : Config) (pods : List Pod)
    (he : (replicaType, spec) ∈ job.spec.replicaSpecs.entries) :
    (podPlan replicaType spec pods).requests.filterMap (podCall? config job replicaType spec) =
      job.dueDeletions replicaType spec pods ++ job.dueCreations config replicaType spec pods := by
  unfold PodPlan.requests Job.dueDeletions Job.dueCreations
  rw [List.filterMap_append, List.filterMap_map, List.filterMap_map, restarts_podPlan, missing_podPlan,
    List.filterMap_map]
  refine congrArg₂ (· ++ ·) ?_ ?_
  · rw [← List.filterMap_eq_map]
    rfl
  · exact List.filterMap_congr fun index _ => podCall?_create config he index

/-- Every request of a plan for a serviceable job can be made. -/
theorem isSome_podCall? {job : Job} (hjob : job.Serviceable) (config : Config) (pods : List Pod)
    (he : (replicaType, spec) ∈ job.spec.replicaSpecs.entries) :
    ∀ r ∈ (podPlan replicaType spec pods).requests, (podCall? config job replicaType spec r).isSome = true := by
  intro r hr
  rcases List.mem_append.1 hr with hr | hr
  · obtain ⟨name, -, rfl⟩ := List.mem_map.1 hr
    rfl
  · obtain ⟨index, hindex, rfl⟩ := List.mem_map.1 hr
    obtain ⟨pod, hpod, -⟩ := hjob.exists_podOf? he config (lt_of_mem_missing hindex)
    rw [podCall?_create config he, Option.isSome_map, hpod, Option.isSome_some]

/-- A plan has as many pods replaced as deletions are due. -/
theorem length_restarts (job : Job) : (podPlan replicaType spec pods).restarts.length =
    (job.dueDeletions replicaType spec pods).length := by
  rw [restarts_podPlan, Job.dueDeletions, List.length_map, List.length_map]

end Controller

/-! ## What is done about it -/

namespace Controller

variable {σ : Type} [ObjectStore σ]

/-- All that is done for the pods of a replica type, as `reconcile_pods` does it: how the requests end, and the status
with the pods counted. The pods are counted before anything is asked for, so whether it is granted does not matter. -/
def attendPods (now : Timestamp) (job : Job) (replicaType : String) (spec : ReplicaSpec) (pods : List Pod)
    (status : JobStatus) (c : Controller σ) : (Except OperatorError Nat × JobStatus) × Controller σ :=
  let (result, c) := (reconcilePods now job replicaType spec pods).run c
  ((result, countPods replicaType (podPlan replicaType spec pods) status), c)

/-- **A pass hands the status on from one replica type to the next**, with the pods of each counted by the time its
services are looked at. Only where a request failed the counts are lost, with the rest of the pass. -/
theorem run_reconcileReplicas_cons (now : Timestamp) (job : Job) (pods : List Pod) (services : List Service)
    (e : String × ReplicaSpec) (rest : List (String × ReplicaSpec)) (status : JobStatus) (c : Controller σ) :
    (reconcileReplicas now job pods services (e :: rest) status).run c =
      match attendPods now job e.1 e.2 pods status c with
      | ((.error err, _), c₁) => (.error err, c₁)
      | ((.ok replaced, counted), c₁) =>
        (do
          reconcileServices now job e.1 e.2 services
          let (status, more) ← reconcileReplicas now job pods services rest counted
          return (status, replaced + more) : ControllerM σ (JobStatus × Nat)).run c₁ := by
  unfold attendPods
  rw [reconcileReplicas]
  rcases hrun : (reconcilePods now job e.1 e.2 pods).run c with ⟨err | replaced, c₁⟩
  · exact run_bind_error _ hrun
  · exact run_bind_ok _ hrun

end Controller

open Controller

/-- **Just the calls are made that are due.** For a stored job with an acceptable spec, a replica type of it and any
list of pods, on any store: there is a pod to be made for every slot, under the name of the slot. Unless something
is outstanding under the key of the type, the calls are the due deletions and after them the due creations, in the
order of the slots, as far as they got. With a result all were made and passed, and the result is the number of the
deletions; with an error the last one failed with it, and those before it passed. While something is outstanding
nothing is called for. In every case the counts of the type become those of the pods that count. -/
theorem slot_plan_exact {σ : Type} [ObjectStore σ] {stored : Job}
    (hvalid : stored.withDefaults.spec.fault? = none) (huid : stored.metadata.uid.isSome = true)
    {e : String × ReplicaSpec} (he : e ∈ stored.withDefaults.spec.replicaSpecs.entries) (now : Timestamp)
    (pods : List Pod) (status : JobStatus) (c : Controller (Traced σ)) :
    let job := stored.withDefaults
    let due := job.dueDeletions e.1 e.2 pods ++ job.dueCreations c.config e.1 e.2 pods
    let run := attendPods now job e.1 e.2 pods status c
    (∀ index < e.2.slotCount, ∃ pod, job.podOf? c.config (e.1, index) = some pod ∧
      nameOf pod = slotName job.name e.1 index) ∧
    (∃ made, run.2.store.trace = c.store.trace ++ made ∧
      if c.expectations.satisfied (.of job.key e.1 .pods) now then
        made.map Prod.fst <+: due ∧
        match run.1.1 with
        | .ok replaced => made.map Prod.fst = due ∧ replaced = (job.dueDeletions e.1 e.2 pods).length ∧
            ∀ x ∈ made, StoreCall.Passed x
        | .error err => ∃ before call, made = before ++ [(call, some err)] ∧ call.tolerates err = false ∧
            ∀ x ∈ before, StoreCall.Passed x
      else made = [] ∧ run.1.1 = .ok 0) ∧
    let counts := run.1.2.countsOf e.1
    (counts.active : Int) = (seatedPods e.1 e.2 pods).countP (fun p => p.phase? == some "Running") ∧
      (counts.succeeded : Int) = (seatedPods e.1 e.2 pods).countP (fun p => p.phase? == some "Succeeded") ∧
      (counts.failed : Int) = (seatedPods e.1 e.2 pods).countP (fun p => p.phase? == some "Failed") := by
  intro job due run
  have hjob := Job.serviceable_withDefaults hvalid huid
  refine ⟨fun index hindex => hjob.exists_podOf? he c.config hindex, ?_, ?_⟩
  · have hattended : Yields (reconcilePods now job e.1 e.2 pods) c _ _ := attended_reconcilePods pods
    have hcalls := isSome_podCall? hjob c.config pods he
    have hdue : _ = due := filterMap_podCall? c.config pods he
    have hjoined : run.1.1 = ((reconcilePods now job e.1 e.2 pods).run c).1 ∧
        run.2 = ((reconcilePods now job e.1 e.2 pods).run c).2 := ⟨rfl, rfl⟩
    rw [hjoined.1, hjoined.2]
    -- An error ends the calls at the one that failed; without one all that are due were made.
    rcases hrun : (reconcilePods now job e.1 e.2 pods).run c with ⟨err | replaced, c'⟩
    · obtain ⟨made, h⟩ := hattended.error hrun
      refine ⟨made, h.trace, ?_⟩
      have hran := h.ran
      split at hran
      · next hsatisfied =>
        rw [if_pos hsatisfied]
        exact ⟨by rw [← hdue]; exact hran.isPrefix, hran.last_of_some hcalls⟩
      · exact absurd hran.2 (by simp)
    · obtain ⟨hreplaced, made, h⟩ := hattended.ok hrun
      refine ⟨made, h.trace, ?_⟩
      have hran := h.ran
      split at hran
      · next hsatisfied =>
        rw [if_pos hsatisfied] at hreplaced ⊢
        obtain ⟨hall, hpassed⟩ := hran.all_of_none
        exact ⟨by rw [← hdue]; exact hran.isPrefix, hall.trans hdue, hreplaced.trans (length_restarts job), hpassed⟩
      · next hsatisfied =>
        rw [if_neg hsatisfied] at hreplaced ⊢
        exact ⟨hran.1, congrArg Except.ok hreplaced⟩
  · intro counts
    -- The counts are set before the requests and whatever comes of them.
    have hcounts : counts = .ofPods (podPlan e.1 e.2 pods).seated :=
      congrArg (·.getD {}) (Dict.get?_insert_self status.replicaStatuses e.1 _)
    rw [hcounts, ← seated_podPlan]
    exact ⟨toInt_phaseCount_seated _ _ _ _, toInt_phaseCount_seated _ _ _ _, toInt_phaseCount_seated _ _ _ _⟩

/-- A job of one master and four workers that are replaced by their exit codes. -/
def overfullJob : Job :=
  let job := sampleJob {} [("master", sampleType 1 .never), ("worker", sampleType 4 .exitCode)] none
  { job with metadata := { job.metadata with uid := some "uid-1" } }

/-- Its workers, as they are listed: the first slot has one that failed for good, the second one that may recover
and a running one behind it, and two belong to no slot. -/
def crowdedPods : List Pod :=
  let stray := samplePod "worker" 2 "Running" none
  [samplePod "worker" 1 "Failed" (some 137), samplePod "worker" 1 "Running" none, samplePod "worker" 7 "Running" none,
    { stray with metadata := { stray.metadata with
      labels := some ((Labels.ofSlot Job.group "iris" "worker" 2).insert Label.replicaIndex "two") } },
    samplePod "worker" 0 "Failed" (some 1)]

/-- The two creations are not answered in time and find something in their place. -/
def overfullStart : Controller (Traced MemoryStore) :=
  let store := crowdedPods.foldl MemoryStore.insertPod { clock := ⟨0⟩ }
  let errors := [.timeout "create", .api (.alreadyExists "pods" "iris-worker-3")]
  .new {} { store := { store with failures := errors.map (.createPod, ·) } }

def crowdedSpec : ReplicaSpec := (sampleType 4 .exitCode).withDefaults

def overfullRun : (Except OperatorError Nat × JobStatus) × Controller (Traced MemoryStore) :=
  attendPods (sampleTime 7) overfullJob.withDefaults "Worker" crowdedSpec crowdedPods {} overfullStart

/-- Three calls are made, and two pods are counted as failed. -/
theorem slot_plan_exact_overfullJob :
    overfullJob.withDefaults.spec.fault? = none ∧ overfullJob.metadata.uid.isSome = true ∧
      ("Worker", crowdedSpec) ∈ overfullJob.withDefaults.spec.replicaSpecs.entries ∧
      overfullRun.1.1.toOption = some 1 ∧ overfullRun.2.store.trace.length = 3 ∧
      overfullRun.2.store.trace.map Prod.fst =
        [.deletePod ⟨"default", "iris-worker-1"⟩] ++
          overfullJob.withDefaults.dueCreations {} "Worker" crowdedSpec crowdedPods ∧
      ((overfullRun.1.2.countsOf "Worker").failed : Int) = 2 := by
  have hvalid : overfullJob.withDefaults.spec.fault? = none := by decide +kernel
  have hmem : ("Worker", crowdedSpec) ∈ overfullJob.withDefaults.spec.replicaSpecs.entries := by decide +kernel
  have hsatisfied : overfullStart.expectations.satisfied (.of overfullJob.withDefaults.key "Worker" .pods)
      (sampleTime 7) = true := by decide +kernel
  have hrun : overfullRun.1.1.toOption = some 1 ∧ overfullRun.2.store.trace.length = 3 := by decide +kernel
  have hreplaced : (seatedPods "Worker" crowdedSpec crowdedPods).filter
      (fun p => crowdedSpec.restart = .exitCode ∧ p.MayRecover) = [samplePod "worker" 1 "Failed" (some 137)] := by
    decide +kernel
  have hphase : ((seatedPods "Worker" crowdedSpec crowdedPods).countP fun p => p.phase? == some "Failed") = 2 := by
    decide +kernel
  obtain ⟨-, ⟨made, htrace, hmade⟩, -, -, hfailed⟩ := slot_plan_exact hvalid rfl hmem (sampleTime 7) crowdedPods {}
    overfullStart
  rw [if_pos hsatisfied, ← overfullRun] at hmade
  rw [← overfullRun, show overfullStart.store.trace = [] from rfl, List.nil_append] at htrace
  refine ⟨hvalid, rfl, hmem, hrun.1, hrun.2, ?_, ?_⟩
  · rcases hresult : overfullRun.1.1 with _ | replaced
    · rw [hresult] at hrun
      exact absurd hrun.1 (by simp [Except.toOption])
    · rw [hresult] at hmade
      rw [htrace, hmade.2.1, Job.dueDeletions, hreplaced]
      rfl
  · rw [← overfullRun, hphase] at hfailed
    exact hfailed

end TrainingJobs
