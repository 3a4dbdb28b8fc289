/-
Which failures are taken for new ones.

A pass takes a failure for a new one by its number: more pods have failed than the status has counted. But the two
are not counted alike. The number of failed pods is that of all pods with the labels of the job, while the status
counts of each slot the first pod only, and no pod beyond the last slot, and adds to it in 32 bits what it has of
replica types that the job does not ask for (`failedCount_eq`). A failed pod that is not
counted, be it left over after a job was scaled down or behind another in its slot, makes every later pass find a new
failure, and then only the number of active pods and the retries keep the job from its end. **`old_failures_fail_iff`
says exactly when that happens** between two passes: never, where all failed pods are counted, the count fits and none
is added.
-/
import TrainingJobs.Proofs.Leftovers
import TrainingJobs.Proofs.SteadyState
import TrainingJobs.Proofs.VerdictSurvival

set_option autoImplicit false

namespace TrainingJobs

open Controller

namespace Job

variable {job : Job} {s : MemoryStore} {status : JobStatus} {pods : List Pod} {retries : Nat} {limit : Int}

/-! ## The two ways of counting -/

/-- The failed pods that the status gets to know of: those that count for a slot. -/
def countedFailures (job : Job) (pods : List Pod) : Int :=
  tally (fun e => (phaseCount "Failed" (podPlan e.1 e.2 pods).seated : Int)) job.spec.replicaSpecs.entries

/-- The failures that a status has of replica types which the job does not ask for. -/
def failuresBeside (job : Job) (status : JobStatus) : Int :=
  tally (fun e => (e.2.failed : Int32))
    (status.replicaStatuses.entries.filter fun e => !job.spec.replicaSpecs.contains e.1)

/-- Where the failed pods of the job stand, whether they count for a slot or not. -/
def failedAt (job : Job) (s : MemoryStore) : List Address :=
  (s.pods.filter fun a pod => (a.ns == job.ns && Labels.selectedBy (HasMetadata.metadata pod).labelsOrEmpty
    (Labels.ofJob group job.name)) && pod.phase? == some "Failed").keys

/-- The pods of the job that have failed, counted by their addresses or by their phases. -/
theorem length_failedAt (job : Job) (s : MemoryStore) :
    (job.failedAt s).length = phaseCount "Failed" (job.podsIn s) := by
  unfold failedAt podsIn MemoryStore.select phaseCount Dict.keys Dict.values Dict.filter
  rw [List.length_map, List.countP_map, List.countP_filter, ← List.countP_eq_length_filter]
  refine List.countP_congr fun e _ => ?_
  rw [Function.comp, Bool.and_comm]

/-- Where no pod stands that failed, none has. -/
theorem phaseCount_le_of_subset {job' : Job} {s' : MemoryStore} (h : ∀ b ∈ job'.failedAt s', b ∈ job.failedAt s) :
    phaseCount "Failed" (job'.podsIn s') ≤ phaseCount "Failed" (job.podsIn s) := by
  rw [← length_failedAt, ← length_failedAt]
  exact (Dict.nodup_keys _).length_le_of_subset h

/-- The pods of a job are different ones, where every pod stands at its own address. -/
theorem nodup_podsIn (h : s.PodsInPlace) : (job.podsIn s).Nodup := by
  have hplaces : (job.podsIn s).map (fun pod => pod.metadata.address) = (s.pods.filter fun a pod =>
      a.ns == job.ns && Labels.selectedBy (HasMetadata.metadata pod).labelsOrEmpty
        (Labels.ofJob group job.name)).keys := by
    unfold podsIn MemoryStore.select Dict.values Dict.keys Dict.filter
    rw [List.map_map]
    exact List.map_congr_left fun e he => h e.1 e.2 (Dict.get?_eq_some_iff.2 (List.mem_filter.1 he).1)
  refine List.Pairwise.of_map (fun pod => pod.metadata.address) (fun p q hne hsame => hne ?_)
    (hplaces ▸ Dict.nodup_keys _)
  rw [hsame]

/-- All failed pods are counted, if each of them counts for a slot. -/
theorem failures_le_counted (hplace : s.PodsInPlace) (h : ∀ p ∈ job.podsIn s, p.phase? = some "Failed" →
      ∃ e ∈ job.spec.replicaSpecs.entries, p ∈ (podPlan e.1 e.2 (job.podsIn s)).seated) :
    (phaseCount "Failed" (job.podsIn s) : Int) ≤ job.countedFailures (job.podsIn s) := by
  let hasFailed : Pod → Bool := fun p => p.phase? == some "Failed"
  -- Pods are distinct by their address, so counting the failed ones as a subset is enough.
  have hlength : ((job.podsIn s).filter hasFailed).length ≤ (job.spec.replicaSpecs.entries.flatMap fun e =>
      (podPlan e.1 e.2 (job.podsIn s)).seated.filter hasFailed).length := by
    refine ((nodup_podsIn hplace).sublist List.filter_sublist).length_le_of_subset fun p hp => ?_
    obtain ⟨hmem, hfailed⟩ := List.mem_filter.1 hp
    obtain ⟨e, he, hseated⟩ := h p hmem (beq_iff_eq.1 hfailed)
    exact List.mem_flatMap.2 ⟨e, he, List.mem_filter.2 ⟨hseated, hfailed⟩⟩
  have hcounted : job.countedFailures (job.podsIn s) = ((job.spec.replicaSpecs.entries.flatMap fun e =>
      (podPlan e.1 e.2 (job.podsIn s)).seated.filter hasFailed).length : Int) := by
    rw [length_flatMap_eq_tally]
    unfold countedFailures phaseCount
    simp only [List.countP_eq_length_filter, hasFailed]
  rw [hcounted, phaseCount, List.countP_eq_length_filter]
  exact Int.ofNat_le.2 hlength

/-- A status in which the pods have been counted has the failures of those that count for a slot, beside what it
has of other types. It is this sum that may not fit: no type has too many failed pods to be counted, but the counts of
other types are what was stored. -/
theorem failedCount_eq (h : ∀ e ∈ job.spec.replicaSpecs.entries, status.replicaStatuses.get? e.1 =
      some (.ofPods (podPlan e.1 e.2 pods).seated)) :
    status.failedCount = .ofInt (job.countedFailures pods + job.failuresBeside status) := by
  -- Of the types the job asks for, the status has one count each, in the same order.
  have hsame : (status.replicaStatuses.entries.filter fun e => job.spec.replicaSpecs.contains e.1) =
      job.spec.replicaSpecs.entries.map fun e => (e.1, .ofPods (podPlan e.1 e.2 pods).seated) := by
    refine Dict.eq_of_mem_iff (status.replicaStatuses.sorted.sublist List.filter_sublist)
      (List.pairwise_map.2 job.spec.replicaSpecs.sorted) fun x => ?_
    rw [List.mem_filter, List.mem_map]
    constructor
    · rintro ⟨hx, hasked⟩
      obtain ⟨spec, hspec⟩ := Option.isSome_iff_exists.1 hasked
      have he := Dict.get?_eq_some_iff.1 hspec
      have hcount := (Dict.get?_eq_some_iff.2 hx).symm.trans (h _ he)
      exact ⟨_, he, Prod.ext rfl (Option.some.inj hcount).symm⟩
    · rintro ⟨e, he, rfl⟩
      exact ⟨Dict.get?_eq_some_iff.1 (h e he), Option.isSome_iff_exists.2 ⟨_, Dict.get?_eq_some_iff.2 he⟩⟩
  have hcounted : tally (fun e : String × ReplicaCounts => (e.2.failed : Int32))
      (job.spec.replicaSpecs.entries.map fun e => (e.1, .ofPods (podPlan e.1 e.2 pods).seated)) =
        job.countedFailures pods := by
    rw [tally_map]
    exact congrArg (tally · _) (funext fun e => toInt_phaseCount_seated "Failed" e.1 e.2 pods)
  unfold JobStatus.failedCount Dict.values
  rw [sum32_eq_ofInt, tally_map, ← tally_filter_add _ fun e => job.spec.replicaSpecs.contains e.1, hsame, hcounted]
  rfl

/-! ## The backoff limit -/

/-- Pods whose containers were never restarted use up no retries by that. -/
theorem restartsPastLimit_of_unrestarted (hlimit : 0 ≤ limit) (h : ∀ p ∈ pods, p.restartCount = 0) :
    job.restartsPastLimit pods limit = false := by
  have hnone : job.restartsInPlace pods = 0 := by
    refine sum32_eq_zero fun e _ => ?_
    split
    · refine sum32_eq_zero fun p hp => h p ?_
      exact (List.mem_filter.1 (List.mem_filter.1 hp).1).1
    · rfl
  unfold restartsPastLimit
  rw [hnone]
  -- Under a limit of zero one restart is too many; under any other, as many as the limit.
  split
  · rfl
  · next hne =>
    have hpositive : (0 : Int) < limit := by omega
    exact decide_eq_false (Int.not_le.2 hpositive)

/-- Without restarts in place a job is past its backoff limit exactly if its retries are used up, more pods have
failed than were counted, and not as many are active as it asks for. -/
theorem pastBackoff_iff (hsome : job.spec.runPolicy.backoffLimit = some limit) (hlimit : 0 ≤ limit)
    (h : ∀ p ∈ pods, p.restartCount = 0) : job.PastBackoff pods retries ↔
      limit ≤ retries ∧ .ofNat (pods.countP Pod.isActive) ≠ job.totalReplicas ∧
        job.currentStatus.failedCount < .ofNat (phaseCount "Failed" pods) := by
  unfold PastBackoff failuresPastLimit
  rw [hsome]
  simp only [Option.some.injEq, exists_eq_left', restartsPastLimit_of_unrestarted hlimit h, Bool.false_eq_true,
    or_false, Bool.and_eq_true, decide_eq_true_eq, Int.lt_add_one_iff]
  exact ⟨fun ⟨⟨hmore, hactive⟩, hretries⟩ => ⟨hretries, hactive, hmore⟩,
    fun ⟨hretries, hactive, hmore⟩ => ⟨⟨hmore, hactive⟩, hretries⟩⟩

end Job

/-! ## Two passes -/

/-- A pass attends to the acceptable job at `a` and leaves it without a verdict. -/
structure LeftOpen (key : String) (a : Address) (now : Timestamp) (c c' : Controller MemoryStore)
    (stored left : Job) : Prop where
  before : c.store.jobs.get? a = some stored
  address : stored.address = a
  acceptable : stored.withDefaults.spec.fault? = none
  free : ¬ stored.withDefaults.HeldUp now c
  /-- The job is over no limit. Otherwise the pass would have written the verdict, or deleted the job. -/
  within : stored.withDefaults.exceeded? (stored.withDefaults.podsIn c.store) (c.retries.count key)
    (stored.withDefaults.takenIn now) now = none
  ends : ∃ outcome, (sync now key).run c = (.ok outcome, c')
  after : c'.store.jobs.get? a = some left
  unfinished : left.currentStatus.isFinished = false

section Passes

variable {key : String} {a : Address} {now later : Timestamp} {c c₁ c₂ : Controller MemoryStore}
  {stored left job : Job} {limit : Int}

/-- What such a pass leaves of the count of failures: the failed pods that count for a slot, beside what was counted
of other types. -/
theorem LeftOpen.failedCount (h : LeftOpen key a now c c₁ stored left)
    (hkey : splitKey? key = some (a.ns, a.name)) :
    left.currentStatus.failedCount = .ofInt (stored.withDefaults.countedFailures (stored.withDefaults.podsIn c.store) +
      stored.withDefaults.failuresBeside left.currentStatus) := by
  obtain ⟨outcome, hrun⟩ := h.ends
  obtain ⟨hstatus, hsame⟩ := status_of_attended hkey h.before h.address h.acceptable h.free hrun h.after
  have hspec : left.withDefaults.spec = stored.withDefaults.spec := congrArg JobSpec.withDefaults hsame.spec
  rcases Job.of_resolved_unfinished left.withDefaults h.acceptable (Job.filled_withDefaults stored) hstatus hspec
    h.unfinished with hassessed | ⟨hlimit, -⟩
  · exact Job.failedCount_eq (hspec ▸ hassessed.counts)
  · rw [h.within] at hlimit
    exact absurd hlimit (by simp)

/-- What the next pass compares: all failed pods that it finds, and those that the first pass has counted. -/
theorem LeftOpen.pastBackoff_iff (h : LeftOpen key a now c c₁ stored left) (hkey : splitKey? key = some (a.ns, a.name))
    (hlimit : stored.spec.runPolicy.backoffLimit = some limit) (hnonneg : 0 ≤ limit) (hspec : job.spec = stored.spec)
    (hstatus : job.currentStatus = left.currentStatus)
    (hrestarts : ∀ p ∈ job.withDefaults.podsIn c₂.store, p.restartCount = 0) :
    job.withDefaults.PastBackoff (job.withDefaults.podsIn c₂.store) (c₂.retries.count key) ↔
      limit ≤ c₂.retries.count key ∧
        .ofNat ((job.withDefaults.podsIn c₂.store).countP Pod.isActive) ≠ job.withDefaults.totalReplicas ∧
        Int32.ofInt (stored.withDefaults.countedFailures (stored.withDefaults.podsIn c.store) +
            stored.withDefaults.failuresBeside left.currentStatus) <
          .ofNat (phaseCount "Failed" (job.withDefaults.podsIn c₂.store)) := by
  have hsome : job.withDefaults.spec.runPolicy.backoffLimit = some limit := by
    rw [show job.withDefaults.spec = stored.withDefaults.spec from congrArg JobSpec.withDefaults hspec]
    exact hlimit
  rw [Job.pastBackoff_iff hsome hnonneg hrestarts, ← h.failedCount hkey, ← hstatus]
  rfl

/-- A pass that attends to an acceptable job without a verdict, before its deadline, fails it exactly if it gives it up
for its backoff limit, or if it is within that and a failed pod is not replaced. -/
theorem isFailed_after_iff {outcome : Outcome} {after : Job} (hkey : splitKey? key = some (a.ns, a.name))
    (hjob : c.store.jobs.get? a = some job) (hplace : job.address = a) (hvalid : job.withDefaults.spec.fault? = none)
    (hopen : job.currentStatus.isFinished = false) (hfree : ¬ job.withDefaults.HeldUp now c)
    (hdeadline : ¬ job.withDefaults.PastDeadline now) (hrun : (sync now key).run c = (.ok outcome, c₁))
    (hafter : c₁.store.jobs.get? a = some after) : after.currentStatus.isFailed = true ↔
      job.withDefaults.GivenUp now (job.withDefaults.podsIn c.store) (c.retries.count key) ∨
      ¬ job.withDefaults.PastBackoff (job.withDefaults.podsIn c.store) (c.retries.count key) ∧
        job.withDefaults.Broken (job.withDefaults.podsIn c.store) := by
  rw [(status_of_attended hkey hjob hplace hvalid hfree hrun hafter).1]
  refine (Job.isFailed_resolved (Job.filled_withDefaults job) hopen).trans (or_congr_right ?_)
  rw [Job.exceeded?_eq_none_iff, and_iff_left hdeadline]

/-- **After a pass that leaves a job without a verdict, the next finds it past its backoff limit exactly if the retries
are used up, not as many pods are active as it asks for, and more pods have failed than the first pass has counted.**
All of these numbers have 32 bits, and what was counted is a sum that may not fit into them. If it does, and no pod has
failed in between, that never happens where each failed pod counted for a slot. And before its deadline the job is
failed by the next pass only if it is past its backoff limit, or a failed pod is not replaced. -/
theorem old_failures_fail_iff (hkey : splitKey? key = some (a.ns, a.name))
    (h : LeftOpen key a now c c₁ stored left) (hlimit : stored.spec.runPolicy.backoffLimit = some limit)
    (hnonneg : 0 ≤ limit) (hjob : c₂.store.jobs.get? a = some job) (hplace : job.address = a)
    (hspec : job.spec = stored.spec) (hstatus : job.currentStatus = left.currentStatus)
    (hfree : ¬ job.withDefaults.HeldUp later c₂)
    (hrestarts : ∀ p ∈ job.withDefaults.podsIn c₂.store, p.restartCount = 0) :
    (job.withDefaults.PastBackoff (job.withDefaults.podsIn c₂.store) (c₂.retries.count key) ↔
      limit ≤ c₂.retries.count key ∧
        .ofNat ((job.withDefaults.podsIn c₂.store).countP Pod.isActive) ≠ job.withDefaults.totalReplicas ∧
        Int32.ofInt (stored.withDefaults.countedFailures (stored.withDefaults.podsIn c.store) +
            stored.withDefaults.failuresBeside left.currentStatus) <
          .ofNat (phaseCount "Failed" (job.withDefaults.podsIn c₂.store))) ∧
    (c.store.PodsInPlace → 0 ≤ stored.withDefaults.failuresBeside left.currentStatus →
      Json.Fits 32 (stored.withDefaults.countedFailures (stored.withDefaults.podsIn c.store) +
        stored.withDefaults.failuresBeside left.currentStatus) →
      (∀ b ∈ job.withDefaults.failedAt c₂.store, b ∈ stored.withDefaults.failedAt c.store) →
      (∀ p ∈ stored.withDefaults.podsIn c.store, p.phase? = some "Failed" →
        ∃ e ∈ stored.withDefaults.spec.replicaSpecs.entries,
          p ∈ (podPlan e.1 e.2 (stored.withDefaults.podsIn c.store)).seated) →
      ¬ job.withDefaults.PastBackoff (job.withDefaults.podsIn c₂.store) (c₂.retries.count key)) ∧
    ∀ outcome c₃ after, (sync later key).run c₂ = (.ok outcome, c₃) → c₃.store.jobs.get? a = some after →
      ¬ job.withDefaults.PastDeadline later →
        (after.currentStatus.isFailed = true ↔
          job.withDefaults.GivenUp later (job.withDefaults.podsIn c₂.store) (c₂.retries.count key) ∨
          ¬ job.withDefaults.PastBackoff (job.withDefaults.podsIn c₂.store) (c₂.retries.count key) ∧
            job.withDefaults.Broken (job.withDefaults.podsIn c₂.store)) := by
  have hback := h.pastBackoff_iff hkey hlimit hnonneg hspec hstatus hrestarts
  refine ⟨hback, ?_, ?_⟩
  · intro hplaces hbeside hfits hold hcounted hpast
    -- The failed pods are some of those before, and all of these were counted.
    have hfewer := Job.phaseCount_le_of_subset hold
    have hall := Job.failures_le_counted hplaces hcounted
    have hmore := (hback.1 hpast).2.2
    -- So they are few enough to be counted in 32 bits, as the sum is.
    have hcount : phaseCount "Failed" (job.withDefaults.podsIn c₂.store) < 2 ^ 31 := by
      have hmost : _ < (2 ^ 31 : Int) := hfits.2
      omega
    rw [Int32.lt_iff_toInt_lt, toInt_ofInt_of_fits hfits, Int32.toInt_ofNat_of_lt hcount] at hmore
    omega
  · intro outcome c₃ after hrun hafter hdeadline
    have hvalid : job.withDefaults.spec.fault? = none := by
      rw [show job.withDefaults.spec = stored.withDefaults.spec from congrArg JobSpec.withDefaults hspec]
      exact h.acceptable
    exact isFailed_after_iff hkey hjob hplace hvalid (hstatus ▸ h.unfinished) hfree hdeadline hrun hafter

end Passes

/-- A job with no retries that was scaled down to one worker: the pod of the second is still there, and has failed. -/
def scaledDown : Controller MemoryStore :=
  let start := sampleStartWith
    (sampleJob { backoffLimit := some 0 } [(masterType, sampleType 1 .exitCode), (workerType, sampleType 1 .exitCode)]
      none)
    [samplePod masterType 0 "Running" none, samplePod workerType 0 "Running" none,
      samplePod workerType 1 "Failed" (some 1)]
  { start with store := { start.store with
      services := .ofList
        ([sampleService masterType 0, sampleService workerType 0].map fun s => (addressOf s, s)) } }

/-- The job after a pass over it. -/
def scaledDownSeen : Controller MemoryStore := ((sync (sampleTime 1) sampleKey).run scaledDown).2

/-- Then its one worker succeeds. -/
def scaledDownDone : Controller MemoryStore :=
  { scaledDownSeen with
    store := scaledDownSeen.store.setPodPhase ⟨"default", slotName "iris" workerType 0⟩ "Succeeded" }

/-- The next pass finds the job past its backoff limit. -/
theorem old_failures_fail_iff_scaledDown : ∃ stored left,
    LeftOpen sampleKey sampleAddress (sampleTime 1) scaledDown scaledDownSeen stored left ∧
      scaledDownDone.store.jobs.get? sampleAddress = some left ∧
      (∀ b ∈ left.withDefaults.failedAt scaledDownDone.store, b ∈ stored.withDefaults.failedAt scaledDown.store) ∧
      left.withDefaults.PastBackoff (left.withDefaults.podsIn scaledDownDone.store)
        (scaledDownDone.retries.count sampleKey) := by
  have hboth : ((scaledDown.store.jobs.get? sampleAddress).bind fun stored =>
      (scaledDownSeen.store.jobs.get? sampleAddress).map fun left =>
        decide (stored.address = sampleAddress ∧ stored.withDefaults.spec.fault? = none ∧
          ¬ stored.withDefaults.HeldUp (sampleTime 1) scaledDown ∧
          stored.withDefaults.exceeded? (stored.withDefaults.podsIn scaledDown.store)
            (scaledDown.retries.count sampleKey) (stored.withDefaults.takenIn (sampleTime 1)) (sampleTime 1) = none ∧
          left.currentStatus.isFinished = false ∧ stored.spec.runPolicy.backoffLimit = some 0 ∧
          left.address = sampleAddress ∧ left.spec = stored.spec ∧
          ¬ left.withDefaults.HeldUp (sampleTime 2) scaledDownDone ∧
          (∀ p ∈ left.withDefaults.podsIn scaledDownDone.store, p.restartCount = 0) ∧
          (∀ b ∈ left.withDefaults.failedAt scaledDownDone.store, b ∈ stored.withDefaults.failedAt scaledDown.store) ∧
          .ofNat ((left.withDefaults.podsIn scaledDownDone.store).countP Pod.isActive) ≠
            left.withDefaults.totalReplicas ∧
          Int32.ofInt (stored.withDefaults.countedFailures (stored.withDefaults.podsIn scaledDown.store) +
              stored.withDefaults.failuresBeside left.currentStatus) <
            .ofNat (phaseCount "Failed" (left.withDefaults.podsIn scaledDownDone.store)))) = some true := by
    decide +kernel
  obtain ⟨stored, hstored, hsome⟩ := Option.bind_eq_some_iff.1 hboth
  obtain ⟨left, hleft, hall⟩ := Option.map_eq_some_iff.1 hsome
  obtain ⟨haddress, hvalid, hfree, hwithin, hunfinished, hlimit, hplace, hspec, hfree₂, hrestarts, hold, hactive,
    hmore⟩ := of_decide_eq_true hall
  have hends := exists_run_ok (show ((sync (sampleTime 1) sampleKey).run scaledDown).1.isOk = true by decide +kernel)
  have hopen : LeftOpen sampleKey sampleAddress (sampleTime 1) scaledDown scaledDownSeen stored left :=
    ⟨hstored, haddress, hvalid, hfree, hwithin, hends, hleft, hunfinished⟩
  have hjob : scaledDownDone.store.jobs.get? sampleAddress = some left := hleft
  have hback := (old_failures_fail_iff splitKey?_sampleKey hopen hlimit (Int.le_refl 0) hjob hplace hspec rfl hfree₂
    hrestarts).1
  exact ⟨stored, left, hopen, hjob, hold, hback.2 ⟨Int.natCast_nonneg _, hactive, hmore⟩⟩

/-- No pod fails between the two passes, and the second fails the job for its backoff limit. -/
theorem old_failure_fails :
    ((sync (sampleTime 1) sampleKey).run scaledDown).1.toOption = some .wait ∧
      (scaledDownSeen.store.jobs.get? sampleAddress).map (fun job => job.currentStatus.isFinished) = some false ∧
      (scaledDownDone.store.pods.filter fun _ pod => pod.phase? == some "Failed") =
        (scaledDown.store.pods.filter fun _ pod => pod.phase? == some "Failed") ∧
      ((sync (sampleTime 2) sampleKey).run scaledDownDone).1.toOption = some .done ∧
      (((sync (sampleTime 2) sampleKey).run scaledDownDone).2.store.jobs.get? sampleAddress).map (fun job =>
        (job.currentStatus.condition? .failed).map (fun c => c.message)) =
          some (some "XGBoostJob iris has failed because it has reached the specified backoff limit") := by
  refine ⟨?_, ?_, ?_, ?_, ?_⟩ <;> decide +kernel

end TrainingJobs
