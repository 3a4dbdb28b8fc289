/-
How many replicas the replicas of a job are told there are.

Two parts of the operator count replicas. What the replicas are told, what a pod group waits for and what counts as
the full number of pods adds up the numbers that the job asks for, in 32 bits; the pods and services are made slot by
slot, and a replica type that asks for a negative number has no slots. So there are two ways for the two counts to
differ: by what such types ask for below zero (`JobSpec.demand_add_shortfall`), and by wrapping around, where one
replica more is asked for than can be counted (`JobSpec.toInt_totalReplicas_of_acceptable`). Whether a spec is
acceptable is decided without a look at the number of workers, and so a job may tell its master that there is no
replica at all, or fewer than none.
-/
import TrainingJobs.Proofs.SlotPlan

set_option autoImplicit false

namespace TrainingJobs

open Controller

/-! ## The two counts -/

namespace JobSpec

/-- How many slots there are altogether for which a pod is made where there is none yet. -/
def slotTotal (s : JobSpec) : Int :=
  tally (fun e => ((podPlan e.1 e.2 []).missing.length : Int)) s.replicaSpecs.entries

/-- By how much replica types ask for less than nothing, altogether. -/
def shortfall (s : JobSpec) : Int := tally (fun e => max 0 (-(e.2.count : Int))) s.replicaSpecs.entries

variable {s : JobSpec}

/-- Without any pods, the missing ones are those of all slots. -/
theorem length_missing_nil (replicaType : String) (spec : ReplicaSpec) :
    (podPlan replicaType spec []).missing.length = spec.slotCount := by
  have hall : (podPlan replicaType spec []).missing = List.range spec.slotCount := by
    rw [missing_podPlan, List.filter_eq_self]
    intro index _
    rfl
  rw [hall, List.length_range]

/-- What is asked for and what is missing from it below zero make up the slots, type by type and so altogether. -/
theorem demand_add_shortfall (s : JobSpec) : s.demand + s.shortfall = s.slotTotal := by
  unfold demand shortfall slotTotal Dict.values
  rw [tally_map]
  induction s.replicaSpecs.entries with
  | nil => rfl
  | cons e rest ih =>
    -- A negative count leaves no slot and falls short by as much as it is below zero.
    have hslots : (e.2.count : Int) + max 0 (-(e.2.count : Int)) = ((podPlan e.1 e.2 []).missing.length : Int) := by
      rw [length_missing_nil, ReplicaSpec.natCast_slotCount]
      omega
    rw [tally_cons, tally_cons, tally_cons, ← ih, ← hslots]
    omega

/-- Nothing is missing below zero exactly when no type asks for a negative number. -/
theorem shortfall_eq_zero_iff : s.shortfall = 0 ↔ ∀ e ∈ s.replicaSpecs.entries, 0 ≤ e.2.count := by
  unfold shortfall
  rw [tally_eq_zero_iff fun e _ => Int.le_max_left 0 (-(e.2.count : Int))]
  apply forall₂_congr
  intro e _
  rw [Int32.le_iff_toInt_le, Int32.toInt_zero]
  omega

/-! ## Acceptable jobs -/

/-- An acceptable spec asks for too many replicas to be counted only if it asks for one too many, and the number it is
taken to ask for is then the least of all. -/
theorem toInt_totalReplicas_of_acceptable (h : s.fault? = none) :
    (s.totalReplicas : Int) = if s.demand < 2 ^ 31 then s.demand else -2 ^ 31 := by
  have hmost := demand_le h
  split
  · next hlt =>
    refine toInt_totalReplicas ⟨?_, hlt⟩
    obtain ⟨m, -, -, hdemand⟩ | ⟨m, w, -, -, hdemand⟩ := demand_of_acceptable h
    · rw [hdemand]
      decide
    · have hworkers := Int32.le_toInt w.count
      rw [hdemand]
      change (-2 ^ 31 : Int) ≤ _
      omega
  · -- Only one total does not fit: one master and 2 ^ 31 - 1 workers.
    next hlt =>
    have hfull : s.demand = 2 ^ 31 := by omega
    rw [totalReplicas_eq_ofInt, hfull]
    rfl

/-- An acceptable spec asks for a replica altogether exactly when no type asks for a negative number: there is one
master, and beside it at most one number of workers. -/
theorem one_le_demand_iff (h : s.fault? = none) :
    1 ≤ s.demand ↔ ∀ e ∈ s.replicaSpecs.entries, 0 ≤ e.2.count := by
  obtain ⟨m, hlist, hm, hdemand⟩ | ⟨m, w, hlist, hm, hdemand⟩ := demand_of_acceptable h
  · rw [hlist, hdemand, List.forall_mem_singleton, hm]
    decide
  · have hworkers : 1 ≤ 1 + (w.count : Int) ↔ 0 ≤ w.count := by
      rw [Int32.le_iff_toInt_le, Int32.toInt_zero]
      omega
    rw [hlist, hdemand, List.forall_mem_cons, List.forall_mem_singleton, hm, and_iff_right (by decide)]
    exact hworkers

/-- There is always the slot of the master. -/
theorem one_le_slotTotal (h : s.fault? = none) : 1 ≤ s.slotTotal := by
  obtain ⟨-, m, hm⟩ := of_fault?_eq_none h
  have hslot : (podPlan masterType m []).missing.length = 1 := by
    rw [length_missing_nil, slotCount_master h hm]
  -- A type has no more slots than all of them together.
  have hle : ∀ e ∈ s.replicaSpecs.entries, ((podPlan e.1 e.2 []).missing.length : Int) ≤ s.slotTotal := by
    intro e he
    exact le_tally_of_mem (fun e _ => Int.natCast_nonneg _) he
  have hmaster := hle _ hm
  rw [hslot] at hmaster
  exact hmaster

/-- What is told and what is made agree exactly when no type asks for a negative number, and all can be counted. -/
theorem totalReplicas_eq_slotTotal_iff (h : s.fault? = none) : (s.totalReplicas : Int) = s.slotTotal ↔
    (∀ e ∈ s.replicaSpecs.entries, 0 ≤ e.2.count) ∧ s.demand < 2 ^ 31 := by
  have hslots := demand_add_shortfall s
  have hsome := one_le_slotTotal h
  have hbelow : 0 ≤ s.shortfall := tally_nonneg fun _ _ => Int.le_max_left _ _
  rw [toInt_totalReplicas_of_acceptable h, ← shortfall_eq_zero_iff]
  split <;> omega

/-- And the master is told of at least one replica just then, too. -/
theorem one_le_totalReplicas_iff (h : s.fault? = none) : 1 ≤ s.totalReplicas ↔
    (∀ e ∈ s.replicaSpecs.entries, 0 ≤ e.2.count) ∧ s.demand < 2 ^ 31 := by
  rw [Int32.le_iff_toInt_le, Int32.toInt_one, toInt_totalReplicas_of_acceptable h, ← one_le_demand_iff h]
  split <;> omega

end JobSpec

namespace Job

variable {job stored : Job} {config : Config} {slot : String × Nat} {pod : Pod}

/-- Where a pod is made there is someone to own it. -/
theorem exists_owner_of_podOf? (h : job.podOf? config slot = some pod) :
    ∃ owner, job.ownerReference = .ok owner := by
  unfold podOf? at h
  simp only [Option.bind_eq_bind, Option.bind_eq_some_iff] at h
  obtain ⟨_, _, _, _, owner, howner, -⟩ := h
  rcases hreference : job.ownerReference with e | owner'
  · rw [hreference] at howner
    exact absurd howner (by simp [Except.toOption])
  · exact ⟨owner', rfl⟩

/-- Every pod that is made for a slot of an acceptable job is told the number of replicas that are asked for. -/
theorem tells_totalReplicas (hvalid : stored.withDefaults.spec.fault? = none)
    (hslot : slot ∈ stored.withDefaults.slotList) (hpod : stored.withDefaults.podOf? config slot = some pod) :
    pod.Tells "WORLD_SIZE" (toString stored.withDefaults.totalReplicas) := by
  obtain ⟨hentries, m, hm⟩ := JobSpec.of_fault?_eq_none hvalid
  obtain ⟨port, hport⟩ := exists_meetingPort_of_acceptable hvalid hm
  obtain ⟨owner, howner⟩ := exists_owner_of_podOf? hpod
  obtain ⟨n, hn⟩ := List.mem_iff_getElem?.1 hslot
  obtain ⟨spec, hspec, -⟩ := mem_slotList.1 hslot
  obtain ⟨c, hc, -⟩ := (ReplicaSpec.of_fault?_eq_none (hentries _ hspec)).2.1
  -- The pod is made from the template with the briefing for the slot.
  have htemplate := slotTemplate_of_getElem? hvalid hm hport hn spec.template
  have hbriefed := podOf?_eq_some hspec htemplate howner config
  rw [show (slot.1, slot.2) = slot from rfl, hpod, Option.some.injEq] at hbriefed
  rw [hbriefed]
  exact (briefed_podFor (List.ne_nil_of_mem hc) config slot owner port n).worldSize

end Job

/-- **All replicas of an acceptable job are told how many there are exactly if no replica type asks for a negative
number, and all of them can be counted.** There is always a slot, and otherwise they are told that there is none. Only
one replica more can be asked for than can be counted, and then they are told the least number of all. A pod group for
which nothing else is asked waits for the same number. -/
theorem world_size_eq_slots_iff {stored : Job} (hvalid : stored.withDefaults.spec.fault? = none) :
    let job := stored.withDefaults
    let Sized := (∀ e ∈ job.spec.replicaSpecs.entries, 0 ≤ e.2.count) ∧ job.spec.demand < 2 ^ 31
    1 ≤ job.spec.slotTotal ∧ ((job.totalReplicas : Int) = job.spec.slotTotal ↔ Sized) ∧
      (1 ≤ job.totalReplicas ↔ Sized) ∧
      ((job.totalReplicas : Int) = if job.spec.demand < 2 ^ 31 then job.spec.demand else -2 ^ 31) ∧
      (∀ config, ∀ slot ∈ job.slotList, ∀ pod, job.podOf? config slot = some pod →
        pod.Tells "WORLD_SIZE" (toString job.totalReplicas)) ∧
      ∀ owner, job.spec.runPolicy.minAvailable = none → (job.podGroupFor owner).minMember = job.totalReplicas := by
  intro job Sized
  refine ⟨JobSpec.one_le_slotTotal hvalid, JobSpec.totalReplicas_eq_slotTotal_iff hvalid,
    JobSpec.one_le_totalReplicas_iff hvalid, JobSpec.toInt_totalReplicas_of_acceptable hvalid, ?_, ?_⟩
  · intro config slot hslot pod hpod
    exact Job.tells_totalReplicas hvalid hslot hpod
  · intro owner hunset
    unfold Job.podGroupFor
    rw [hunset, Option.getD_none]

/-- A job that asks for `workers` workers beside its master. -/
def jobOfWorkers (workers : Int32) : Job :=
  sampleJob {} [("master", sampleType 1 .never), ("WORKER", sampleType workers .never)] none

/-- With three workers there are four replicas, and all are told so. -/
theorem world_size_of_threeWorkers :
    (jobOfWorkers 3).withDefaults.spec.fault? = none ∧ (jobOfWorkers 3).withDefaults.spec.slotTotal = 4 ∧
      ∀ config, ∀ slot ∈ (jobOfWorkers 3).withDefaults.slotList, ∀ pod,
        (jobOfWorkers 3).withDefaults.podOf? config slot = some pod → pod.Tells "WORLD_SIZE" "4" := by
  have hvalid : (jobOfWorkers 3).withDefaults.spec.fault? = none := by decide +kernel
  have hsized : (∀ e ∈ (jobOfWorkers 3).withDefaults.spec.replicaSpecs.entries, 0 ≤ e.2.count) ∧
      (jobOfWorkers 3).withDefaults.spec.demand < 2 ^ 31 := by decide +kernel
  have htotal : (jobOfWorkers 3).withDefaults.totalReplicas = 4 := by decide +kernel
  obtain ⟨-, hslots, -, -, htold, -⟩ := world_size_eq_slots_iff hvalid
  refine ⟨hvalid, ?_, ?_⟩
  · rw [← hslots.2 hsized, htotal]
    rfl
  · rw [htotal] at htold
    exact htold

/-- What the master of the job finds in its environment after a pass, and what the pod group waits for. -/
def worldSizeOf (job : Job) : List (List (Option String)) × List Int :=
  let start := sampleStart job
  let store := ((sync (sampleTime 1) sampleKey).run { start with config := { gang := true } }).2.store
  (store.pods.values.map fun pod => pod.containers.map fun c =>
    (findVar? "WORLD_SIZE" (c.env.getD [])).bind (·.value), store.podGroups.values.map (·.minMember))

/-- A job that asks for a worker less than none is acceptable. It has the slot of its master, and the master is told
that there is no replica. -/
theorem negative_workers_accepted :
    (jobOfWorkers (-1)).withDefaults.spec.fault? = none ∧ (jobOfWorkers (-1)).withDefaults.totalReplicas = 0 ∧
      (jobOfWorkers (-1)).withDefaults.spec.slotTotal = 1 ∧
      worldSizeOf (jobOfWorkers (-1)) = ([[some "0"]], [0]) := by
  refine ⟨?_, ?_, ?_, ?_⟩ <;> decide +kernel

end TrainingJobs
