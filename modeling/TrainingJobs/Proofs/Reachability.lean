/-
Which states a store can come to, and that a pass on any of them ends well.

A store comes about from an empty one by what others do to it and by requests, in any order and whatever they
ask for (`Access`), and a pass does nothing to it but make requests (`accessed_sync`). Two things hold of every
job in such a store: it stands at its own address, and it has an identity, so that it can own what is made for
it (`MemoryStore.Enrolled`). That is all a pass needs of the store. The rest it needs of the job it makes sure
of itself, by filling in the spec and by turning down what is not acceptable; so whatever was submitted, and
whatever stands in its way, **a pass over a stored job ends well unless a failure is lined up**
(`reachable_pass_ends_well`).
-/
import TrainingJobs.Proofs.Names
import TrainingJobs.Proofs.Seating
import TrainingJobs.Proofs.Unfailing

set_option autoImplicit false

namespace TrainingJobs

open Controller

/-! ## What can be done to a store -/

/-- One thing that is done to a store. -/
inductive Access where
  /-- Its clock shows another time. -/
  | clock (now : Timestamp)
  | failNext (op : StoreOp) (error : OperatorError)
  | insertJob (job : Job)
  | insertPod (pod : Pod)
  | removeJob (a : Address)
  | removePod (a : Address)
  | setPodPhase (a : Address) (phase : String)
  /-- A request is made to it, whatever it answers. -/
  | request (call : StoreCall)

/-- What it makes of the store. -/
def Access.make (s : MemoryStore) : Access → MemoryStore
  | clock now => { s with clock := now }
  | failNext op error => s.failNext op error
  | insertJob job => s.insertJob job
  | insertPod pod => s.insertPod pod
  | removeJob a => s.removeJob a
  | removePod a => s.removePod a
  | setPodPhase a phase => s.setPodPhase a phase
  | request call => ((call.op : StoreM MemoryStore call.Answer).run s).2

namespace MemoryStore

/-- The second store comes about from the first by things that are done to it, one after the other. -/
inductive Accessed (s : MemoryStore) : MemoryStore → Prop
  | refl : Accessed s s
  | step {s' : MemoryStore} (access : Access) (h : Accessed s s') : Accessed s (access.make s')

/-- The store comes about from an empty one. -/
def Reachable (s : MemoryStore) : Prop := ∃ clock, Accessed { clock := clock } s

variable {s s₁ s₂ : MemoryStore}

/-- What comes of what comes of a store comes of it. -/
theorem Accessed.trans (h₁ : Accessed s s₁) (h₂ : Accessed s₁ s₂) : Accessed s s₂ := by
  induction h₂ with
  | refl => exact h₁
  | step access _ ih => exact ih.step access

theorem Accessed.single (access : Access) (s : MemoryStore) : Accessed s (access.make s) := .step access .refl

/-- Whatever is done to a store in turn comes of it. -/
theorem accessed_foldl (accesses : List Access) (s : MemoryStore) :
    Accessed s (accesses.foldl Access.make s) := by
  induction accesses generalizing s with
  | nil => exact .refl
  | cons access rest ih => exact (Accessed.single access s).trans (ih _)

/-- What comes of a reachable store is reachable. -/
theorem Reachable.accessed (h : s.Reachable) (h₁ : Accessed s s₁) : s₁.Reachable :=
  h.imp fun _ hs => hs.trans h₁

end MemoryStore

namespace Controller

open MemoryStore

/-- The store of a controller as a pass leaves it comes about from the store that it found. -/
def Works (c c' : Controller MemoryStore) : Prop := Accessed c.store c'.store

/-- All calls of a pass work on the store in ways that anybody could. -/
theorem enduring_works : Enduring (fun _ => True) Works where
  refl _ := .refl
  trans := .trans
  told _ _ := .refl
  call call _ c := .single (.request call) c.store
  expected _ _ := .refl

/-- A pass does nothing to the store but make requests. -/
theorem accessed_sync (now : Timestamp) (key : String) (c : Controller MemoryStore) :
    Accessed c.store ((sync now key).run c).2.store := (enduring_works.sync now key).run c

end Controller

/-! ## What holds of every job -/

namespace MemoryStore

variable {s s' : MemoryStore}

/-- Every job stands at its own address and has an identity. -/
def Enrolled (s : MemoryStore) : Prop :=
  ∀ x job, s.jobs.get? x = some job → job.address = x ∧ job.metadata.uid.isSome = true

instance (s : MemoryStore) : Decidable s.Enrolled := decidable_of_iff _ Dict.forall_get?_iff.symm

theorem Enrolled.of_jobs_eq (h : s.Enrolled) (hjobs : s'.jobs = s.jobs) : s'.Enrolled := by
  unfold Enrolled
  rw [hjobs]
  exact h

/-- Jobs stay enrolled when one of them goes. -/
theorem Enrolled.of_jobs_erase (h : s.Enrolled) {a : Address} (hjobs : s'.jobs = s.jobs.erase a) :
    s'.Enrolled := by
  intro x job hjob
  rw [hjobs] at hjob
  exact h x job (Dict.get?_of_erase hjob)

/-- A job that is written to its own place, with an identity, is enrolled beside the others. -/
theorem Enrolled.of_jobs_insert (h : s.Enrolled) {a : Address} {job : Job} (haddress : job.address = a)
    (huid : job.metadata.uid.isSome = true) (hjobs : s'.jobs = s.jobs.insert a job) : s'.Enrolled := by
  intro x found hfound
  rw [hjobs] at hfound
  by_cases hx : x = a
  · subst hx
    rw [Dict.get?_insert_self, Option.some.injEq] at hfound
    subst hfound
    exact ⟨haddress, huid⟩
  · rw [Dict.get?_insert_ne _ _ hx] at hfound
    exact h x found hfound

/-- A request keeps the jobs enrolled if the change that it makes does. -/
theorem Enrolled.of_effect {change : MemoryStore → MemoryStore} (h : s.Enrolled) (heffect : Effect change s s')
    (hchange : (change s).Enrolled) : s'.Enrolled := by
  cases heffect with
  | refused => exact h.of_jobs_eq rfl
  | made => exact hchange

/-- And when one is put in, at its own address. -/
theorem Enrolled.insertJob (h : s.Enrolled) (job : Job) : (s.insertJob job).Enrolled := by
  refine h.of_jobs_insert ?_ (isSome_uid_stamped (s.version + 1) s.clock job.metadata) rfl
  rfl

/-- A status that is written does not move a job. -/
theorem Enrolled.recorded (h : s.Enrolled) (a : Address) (status : JobStatus) :
    (recorded a status s).Enrolled := by
  unfold MemoryStore.recorded
  split
  · exact h
  · next job hjob =>
    -- A write of the status moves nothing and takes no identity away.
    have haddress : (s.withRecord job status).address = a :=
      (address_stamped (s.version + 1) s.clock job.metadata).trans (h a job hjob).1
    have huid := isSome_uid_stamped (s.version + 1) s.clock job.metadata
    exact h.of_jobs_insert haddress huid rfl

theorem Enrolled.setPodPhase (h : s.Enrolled) (a : Address) (phase : String) :
    (s.setPodPhase a phase).Enrolled := by
  unfold MemoryStore.setPodPhase
  split
  · exact h
  · exact h.of_jobs_eq rfl

/-- Whatever is asked of a store, the jobs are still enrolled afterwards. -/
theorem Enrolled.call (h : s.Enrolled) (call : StoreCall) :
    ((call.op : StoreM MemoryStore call.Answer).run s).2.Enrolled := by
  cases call with
  | getJob a =>
    change ((ObjectStore.getJob a : StoreM MemoryStore (Option Job)).run s).2.Enrolled
    rw [run_getJob]
    split
    · exact h.of_jobs_eq rfl
    · exact h
  | updateJobStatus job status =>
    exact h.of_effect (effect_updateJobStatus job status s) (h.recorded job.address status)
  | deleteJob a => exact h.of_effect (effect_deleteJob a s) (h.of_jobs_erase rfl)
  -- A list or a look for a pod group leaves the store as it is.
  | listPods ns selector => exact h
  | listServices ns selector => exact h
  | getPodGroup a => exact h
  | createPod ns pod => exact h.of_effect (effect_createPod ns pod s) (h.of_jobs_eq rfl)
  | deletePod a => exact h.of_effect (effect_deletePod a s) (h.of_jobs_eq rfl)
  | createService ns service => exact h.of_effect (effect_createService ns service s) (h.of_jobs_eq rfl)
  | deleteService a => exact h.of_effect (effect_deleteService a s) (h.of_jobs_eq rfl)
  | createPodGroup ns group => exact h.of_effect (effect_createPodGroup ns group s) (h.of_jobs_eq rfl)
  | deletePodGroup a => exact h.of_effect (effect_deletePodGroup a s) (h.of_jobs_eq rfl)

/-- Whatever is done to a store keeps the jobs enrolled. -/
theorem Enrolled.make (h : s.Enrolled) (access : Access) : (access.make s).Enrolled := by
  cases access with
  | clock now => exact h.of_jobs_eq rfl
  | failNext op error => exact h.of_jobs_eq rfl
  | insertJob job => exact h.insertJob job
  | insertPod pod => exact h.of_jobs_eq rfl
  | removeJob a => exact h.of_jobs_erase rfl
  | removePod a => exact h.of_jobs_eq rfl
  | setPodPhase a phase => exact h.setPodPhase a phase
  | request call => exact h.call call

/-- So jobs stay enrolled in all that comes of a store. -/
theorem Enrolled.accessed (h : s.Enrolled) (hs : Accessed s s') : s'.Enrolled := by
  induction hs with
  | refl => exact h
  | step access _ ih => exact ih.make access

/-- In a store that comes about from an empty one all jobs are enrolled. -/
theorem Reachable.enrolled (h : s.Reachable) : s.Enrolled := by
  obtain ⟨clock, hs⟩ := h
  refine Enrolled.accessed (fun x job hjob => ?_) hs
  exact absurd hjob (by simp [EmptyCollection.emptyCollection])

end MemoryStore

/-! ## Passes over any job -/

namespace Controller

variable {a : Address} {c : Controller MemoryStore}

/-- Turning a job down fails only if the write of its status does. -/
theorem succeeds_reject {now : Timestamp} {job : Job} {fault : SpecFault} (hc : Calm job.address c) :
    Yields (reject now job fault) c (fun _ _ => True) fun _ _ => False := by
  obtain ⟨stored, hstored⟩ := hc.stored
  unfold reject
  simp only
  split
  · trivial
  · rw [yields_bind, yields_tell, yields_request, MemoryStore.run_updateJobStatus, hc.failures,
      MemoryStore.takeFailure?]
    simp only [hstored]

/-- A pass over a stored job ends well while the store refuses nothing, whatever is asked for. -/
theorem succeeds_sync_of_stored {key : String} {stored : Job} (now : Timestamp)
    (hkey : splitKey? key = some (a.ns, a.name)) (hstored : c.store.jobs.get? a = some stored)
    (haddress : stored.address = a) (huid : stored.metadata.uid.isSome = true)
    (hfailures : c.store.failures = []) : Yields (sync now key) c (fun _ _ => True) fun _ _ => False := by
  rcases hfault : stored.withDefaults.spec.fault? with _ | fault
  · exact succeeds_sync now hkey hstored haddress hfault huid hfailures
  · refine yields_sync_of_fault hkey hstored hfault (fun e rest h => ?_) ?_
    · rw [hfailures] at h
      exact absurd h (by simp [MemoryStore.takeFailure?])
    · subst haddress
      have hcalm : Calm stored.withDefaults.address c := ⟨hfailures, stored, hstored⟩
      exact succeeds_reject hcalm

end Controller

/-- **A pass over a stored job ends well unless a failure is lined up.** The store may have come about in any way,
and neither what the job asks for, its status and what stands in its places, nor what the controller expects and
how often it has tried can make a pass over it fail. -/
theorem reachable_pass_ends_well {c : Controller MemoryStore} {a : Address} {job : Job}
    (hreachable : c.store.Reachable) (hfailures : c.store.failures = []) (hjob : c.store.jobs.get? a = some job)
    (hns : job.ns ≠ "" ∧ Slashless job.ns) (hname : job.name ≠ "" ∧ Slashless job.name) (now : Timestamp) :
    ∃ outcome, ((sync now job.key).run c).1 = .ok outcome := by
  obtain ⟨haddress, huid⟩ := hreachable.enrolled a job hjob
  have hkey : splitKey? job.key = some (a.ns, a.name) := by
    rw [← haddress]
    exact splitKey?_keyFor hns.1 hns.2 hname.1 hname.2
  have hpass := succeeds_sync_of_stored now hkey hjob haddress huid hfailures
  rcases hrun : (sync now job.key).run c with ⟨e | outcome, c'⟩
  · exact (hpass.error hrun).elim
  · exact ⟨outcome, rfl⟩

/-- A job whose types are named in other cases, with two training containers, the second of which has two ports. -/
def crowdedJob : Job :=
  let port (name : String) (number : Int) : ContainerPort := { name := some name, containerPort := number }
  let second := { sampleContainer with ports := some [port "metrics" 80, port Job.portName 7000] }
  let template : PodTemplate := { spec := some { containers := [sampleContainer, second] } }
  sampleJob {} [("MASTER", { sampleType 1 .exitCode with template := template }),
    ("worker", { sampleType 2 .never with template := template })] none

/-- What is done to a store that gets the job: a pod that is not its own is already in the place of its master. -/
def crowding : List Access :=
  [.insertJob crowdedJob, .insertPod { samplePod masterType 0 "Running" none with
    metadata := { name := some (slotName "iris" masterType 0), ns := some "default" } }]

/-- A controller that places pods together, on that store. -/
def crowdedStart : Controller MemoryStore := .new { gang := true } (crowding.foldl Access.make { clock := ⟨0⟩ })

/-- The same after a pass over the job. -/
def crowded : Controller MemoryStore := ((sync (sampleTime 1) sampleKey).run crowdedStart).2

/-- The passes after that one end well, too, although the master of the job has still no pod. -/
theorem crowded_pass_ends_well :
    (crowded.store.pods.get? ⟨"default", slotName "iris" masterType 0⟩).map (·.metadata.labels) = some none ∧
      ∃ outcome, ((sync (sampleTime 400) (keyFor "default" "iris")).run crowded).1 = .ok outcome := by
  have hbegun : crowdedStart.store.Reachable := ⟨⟨0⟩, MemoryStore.accessed_foldl crowding _⟩
  -- A pass is a course of accesses, so the store it leaves is reachable too.
  have hreachable : crowded.store.Reachable := by
    unfold crowded
    exact hbegun.accessed (accessed_sync (sampleTime 1) sampleKey crowdedStart)
  have hstored : (crowded.store.jobs.get? sampleAddress).map (fun job => (job.ns, job.name)) =
      some ("default", "iris") := by decide +kernel
  obtain ⟨job, hjob, hfound⟩ := Option.map_eq_some_iff.1 hstored
  obtain ⟨hns, hname⟩ := Prod.mk.inj hfound
  have hkey : job.key = keyFor "default" "iris" := congr (congrArg keyFor hns) hname
  have hfailures : crowded.store.failures = [] := by decide +kernel
  have hparts : ("default" ≠ "" ∧ Slashless "default") ∧ "iris" ≠ "" ∧ Slashless "iris" := by decide +kernel
  refine ⟨by decide +kernel, ?_⟩
  rw [← hkey]
  exact reachable_pass_ends_well hreachable hfailures hjob (hns ▸ hparts.1) (hname ▸ hparts.2) (sampleTime 400)

end TrainingJobs
