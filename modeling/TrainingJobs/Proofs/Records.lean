/-
What a pass can do to the record of its job, and that nothing else in a pass touches the records.

The record of a job is what the store holds of it. A pass writes it at most once, or deletes the job, and it
does so last; everything before that works on pods, services and pod groups (`SameRecords`). So what a pass
makes of the record is one of three things, a `Resolution`, and a pass that fails makes nothing of it.
-/
import TrainingJobs.Proofs.Parts
import TrainingJobs.Proofs.Requests

set_option autoImplicit false

namespace TrainingJobs

namespace Controller

/-! ## The records, untouched -/

/-- No record has changed, nor anything by which the controller decides for how long it tries, and no failure
was lined up. -/
structure SameRecords (c c' : Controller MemoryStore) : Prop where
  jobs : c'.store.jobs = c.store.jobs
  statusUpdates : c'.store.statusUpdates = c.store.statusUpdates
  failures : c'.store.failures.Sublist c.store.failures
  config : c'.config = c.config
  retries : c'.retries = c.retries

theorem SameRecords.refl (c : Controller MemoryStore) : SameRecords c c := ⟨rfl, rfl, .refl _, rfl, rfl⟩

theorem SameRecords.trans {c₁ c₂ c₃ : Controller MemoryStore} (h₁ : SameRecords c₁ c₂)
    (h₂ : SameRecords c₂ c₃) : SameRecords c₁ c₃ where
  jobs := h₂.jobs.trans h₁.jobs
  statusUpdates := h₂.statusUpdates.trans h₁.statusUpdates
  failures := h₂.failures.trans h₁.failures
  config := h₂.config.trans h₁.config
  retries := h₂.retries.trans h₁.retries

/-- A job that is stored before is stored afterwards, too. -/
theorem SameRecords.stored {c c' : Controller MemoryStore} (h : SameRecords c c') {a : Address} {job : Job}
    (hjob : c.store.jobs.get? a = some job) : c'.store.jobs.get? a = some job := by
  rw [h.jobs]
  exact hjob

/-- What the controller says and computes leaves the records of jobs alone. -/
theorem sameRecords_frame : Frame SameRecords where
  refl := .refl
  trans := .trans
  told _ _ := ⟨rfl, rfl, .refl _, rfl, rfl⟩

theorem sameRecords_expected (f : Expectations → Expectations) (c : Controller MemoryStore) :
    SameRecords c (expected f c) := ⟨rfl, rfl, .refl _, rfl, rfl⟩

/-- A request keeps the records if the change that it makes does. -/
theorem SameRecords.of_effect {c : Controller MemoryStore} {change : MemoryStore → MemoryStore}
    {s : MemoryStore} (h : MemoryStore.Effect change c.store s) (hjobs : (change c.store).jobs = c.store.jobs)
    (hupdates : (change c.store).statusUpdates = c.store.statusUpdates)
    (hfailures : (change c.store).failures = c.store.failures) : SameRecords c { c with store := s } := by
  cases h with
  | refused failures hsub => exact ⟨rfl, rfl, hsub, rfl, rfl⟩
  | made => exact ⟨hjobs, hupdates, hfailures ▸ List.Sublist.refl _, rfl, rfl⟩

open MemoryStore in
/-- Bringing pods and services in line leaves the records of jobs alone. -/
theorem sameRecords_reconcileReplicas (now : Timestamp) (job : Job) (pods : List Pod)
    (services : List Service) (entries : List (String × ReplicaSpec)) (status : JobStatus) :
    Keeps SameRecords (reconcileReplicas now job pods services entries status) := by
  refine keeps_reconcileReplicas sameRecords_frame entries status fun e _ => ⟨?_, ?_⟩
  · exact keeps_reconcilePods sameRecords_frame (fun _ _ => sameRecords_expected _)
      (fun _ _ => sameRecords_expected _) (fun _ _ c => .of_effect (effect_deletePod _ c.store) rfl rfl rfl)
      fun _ _ _ _ c _ _ => .of_effect (effect_createPod _ _ c.store) rfl rfl rfl
  · exact keeps_reconcileServices sameRecords_frame (fun _ _ => sameRecords_expected _)
      (fun _ _ => sameRecords_expected _)
      fun _ _ _ _ c _ _ => .of_effect (effect_createService _ _ c.store) rfl rfl rfl

open MemoryStore in
/-- Cleaning up pods leaves the records of jobs alone. -/
theorem sameRecords_cleanUpPods (job : Job) (pods : List Pod) : Keeps SameRecords (cleanUpPods job pods) :=
  keeps_cleanUpPods sameRecords_frame (fun _ => sameRecords_expected _) pods
    (fun _ _ c => .of_effect (effect_deletePod _ c.store) rfl rfl rfl)
    fun _ _ c => .of_effect (effect_deleteService _ c.store) rfl rfl rfl

open MemoryStore in
/-- Deleting the pod group leaves the records of jobs alone. -/
theorem sameRecords_deletePodGroup (job : Job) : Keeps SameRecords (deletePodGroup job) :=
  keeps_deletePodGroup sameRecords_frame .refl fun c => .of_effect (effect_deletePodGroup _ c.store) rfl rfl rfl

/-! ## The pods, services and expectations, untouched -/

/-- Beside the records, the pods and services and what is expected of them are the same. -/
structure SameSurroundings (c c' : Controller MemoryStore) : Prop extends SameRecords c c' where
  pods : c'.store.pods = c.store.pods
  services : c'.store.services = c.store.services
  expectations : c'.expectations = c.expectations

theorem SameSurroundings.refl (c : Controller MemoryStore) : SameSurroundings c c := ⟨.refl c, rfl, rfl, rfl⟩

theorem sameSurroundings_frame : Frame SameSurroundings where
  refl := .refl
  trans h₁ h₂ := ⟨h₁.toSameRecords.trans h₂.toSameRecords, h₂.pods.trans h₁.pods,
    h₂.services.trans h₁.services, h₂.expectations.trans h₁.expectations⟩
  told _ _ := ⟨sameRecords_frame.told _ _, rfl, rfl, rfl⟩

/-- A request for a pod group touches nothing but pod groups. -/
theorem SameSurroundings.of_effect {c : Controller MemoryStore} {ns : String} {group : PodGroup}
    {s : MemoryStore} (h : MemoryStore.Effect (MemoryStore.withPodGroup ns group) c.store s) :
    SameSurroundings c { c with store := s } := by
  refine ⟨.of_effect h rfl rfl rfl, ?_, ?_, ?_⟩
  all_goals cases h <;> rfl

/-- Making the pod group touches no record, pod or service, and expects nothing. -/
theorem sameSurroundings_ensurePodGroup (job : Job) : Keeps SameSurroundings (ensurePodGroup job) :=
  keeps_ensurePodGroup sameSurroundings_frame .refl
    fun _ c _ => .of_effect (MemoryStore.effect_createPodGroup job.ns _ c.store)

/-! ## What becomes of a record -/

/-- It is the same job: nothing but its status and the number of its last write may differ. -/
structure SameJob (job job' : Job) : Prop where
  spec : job'.spec = job.spec
  address : job'.address = job.address
  leaving : job'.isLeaving = job.isLeaving
  uid : job.metadata.uid.isSome → job'.metadata.uid.isSome

theorem SameJob.refl (job : Job) : SameJob job job := ⟨rfl, rfl, rfl, id⟩

theorem SameJob.trans {job₁ job₂ job₃ : Job} (h₁ : SameJob job₁ job₂) (h₂ : SameJob job₂ job₃) :
    SameJob job₁ job₃ :=
  ⟨h₂.spec.trans h₁.spec, h₂.address.trans h₁.address, h₂.leaving.trans h₁.leaving, h₂.uid ∘ h₁.uid⟩

/-- A job whose status was written has the name that it had. -/
theorem SameJob.name {job job' : Job} (h : SameJob job job') : job'.name = job.name :=
  congrArg Address.name h.address

/-- A job whose status was written is in the namespace in which it was. -/
theorem SameJob.ns {job job' : Job} (h : SameJob job job') : job'.ns = job.ns := congrArg Address.ns h.address

/-- A write of the status leaves it the same job. -/
theorem SameJob.of_stamped (job : Job) (version : Nat) (clock : Timestamp) (status : JobStatus) :
    SameJob job
      { job with metadata := MemoryStore.stamped version clock job.metadata, status := some status } := by
  unfold MemoryStore.stamped
  cases huid : job.metadata.uid with
  | none => exact ⟨rfl, rfl, rfl, fun _ => rfl⟩
  | some uid => exact ⟨rfl, rfl, rfl, fun _ => rfl⟩

/-- What a pass makes of the record of its job. -/
inductive Resolution where
  | kept
  /-- This status is written to it. -/
  | recorded (status : JobStatus)
  /-- The job is deleted, unless a failure lined up says that it is gone already. -/
  | removed

/-- The record at `a` has become what the resolution says, and every other is as it was. -/
structure Resolved (a : Address) (r : Resolution) (c c' : Controller MemoryStore) : Prop where
  failures : c'.store.failures.Sublist c.store.failures
  config : c'.config = c.config
  retries : c'.retries = c.retries
  record : match r with
    | .kept => c'.store.jobs = c.store.jobs ∧ c'.store.statusUpdates = c.store.statusUpdates
    | .recorded status => ∃ job version clock, c.store.jobs.get? a = some job ∧
        c'.store.jobs = c.store.jobs.insert a
          { job with metadata := MemoryStore.stamped version clock job.metadata, status := some status } ∧
        c'.store.statusUpdates = c.store.statusUpdates + 1
    | .removed => (c'.store.jobs = c.store.jobs.erase a ∨
          c'.store.jobs = c.store.jobs ∧ c.store.failures ≠ []) ∧
        c'.store.statusUpdates = c.store.statusUpdates

/-- Where the records are the same, what has become of the job is that it was kept. -/
theorem SameRecords.resolved {a : Address} {c c' : Controller MemoryStore} (h : SameRecords c c') :
    Resolved a .kept c c' := ⟨h.failures, h.config, h.retries, h.jobs, h.statusUpdates⟩

/-- What comes before the record is resolved does not matter, as long as it leaves the records alone. -/
theorem SameRecords.trans_resolved {a : Address} {r : Resolution} {c₁ c₂ c₃ : Controller MemoryStore}
    (h₁ : SameRecords c₁ c₂) (h₂ : Resolved a r c₂ c₃) : Resolved a r c₁ c₃ := by
  refine ⟨h₂.failures.trans h₁.failures, h₂.config.trans h₁.config, h₂.retries.trans h₁.retries, ?_⟩
  have hrecord := h₂.record
  rw [h₁.jobs, h₁.statusUpdates] at hrecord
  cases r with
  | kept => exact hrecord
  | recorded status => exact hrecord
  | removed =>
    -- A failure that is still lined up was lined up before.
    refine ⟨hrecord.1.imp_right fun hkept => ⟨hkept.1, fun hnil => hkept.2 ?_⟩, hrecord.2⟩
    have hsub := h₁.failures
    rw [hnil] at hsub
    exact List.sublist_nil.1 hsub

/-- The status of a job that is still there after its record was resolved, when its status was `old`
before. -/
def Resolution.statusAfter (r : Resolution) (old : JobStatus) : JobStatus :=
  match r with
  | .kept | .removed => old
  | .recorded status => status

/-- Nothing is written to a record unless a status is. -/
theorem Resolved.statusUpdates_eq_iff {a : Address} {r : Resolution} {c c' : Controller MemoryStore}
    (h : Resolved a r c c') :
    c'.store.statusUpdates = c.store.statusUpdates ↔ ∀ status, r ≠ .recorded status := by
  have hrecord := h.record
  cases r with
  | kept => exact iff_of_true hrecord.2 (by simp)
  | removed => exact iff_of_true hrecord.2 (by simp)
  | recorded status =>
    obtain ⟨_, _, _, _, _, hupdates⟩ := hrecord
    exact iff_of_false (by omega) fun hnot => hnot status rfl

namespace Resolved

variable {a : Address} {r : Resolution} {c c' : Controller MemoryStore}

/-- A job that is still there is the one that was there, with the status that the resolution gives it. -/
theorem stored (h : Resolved a r c c') {job' : Job} (hjob' : c'.store.jobs.get? a = some job') :
    ∃ job, c.store.jobs.get? a = some job ∧ job'.currentStatus = r.statusAfter job.currentStatus ∧
      SameJob job job' := by
  have hrecord := h.record
  -- As `stored_resolve` does, but a deletion may have been refused.
  cases r with
  | kept =>
    rw [hrecord.1] at hjob'
    exact ⟨job', hjob', rfl, .refl job'⟩
  | recorded status =>
    obtain ⟨job, version, clock, hjob, hjobs, -⟩ := hrecord
    rw [hjobs, Dict.get?_insert_self, Option.some.injEq] at hjob'
    subst hjob'
    exact ⟨job, hjob, rfl, .of_stamped job version clock status⟩
  | removed =>
    rcases hrecord.1 with hjobs | ⟨hjobs, -⟩
    · rw [hjobs, Dict.get?_erase, if_pos Std.ReflCmp.compare_self] at hjob'
      exact absurd hjob' (by simp)
    · rw [hjobs] at hjob'
      exact ⟨job', hjob', rfl, .refl job'⟩

/-- What is left of a job is that job, with the status that the resolution gives it. -/
theorem left_of_stored (h : Resolved a r c c') {job left : Job} (hjob : c.store.jobs.get? a = some job)
    (hleft : c'.store.jobs.get? a = some left) :
    left.currentStatus = r.statusAfter job.currentStatus ∧ SameJob job left := by
  obtain ⟨found, hfound, hsame⟩ := h.stored hleft
  obtain rfl := Option.some.inj (hjob.symm.trans hfound)
  exact hsame

/-- A job that is not deleted is still there. -/
theorem exists_left (h : Resolved a r c c') (hr : r ≠ .removed) {job : Job} (hjob : c.store.jobs.get? a = some job) :
    ∃ left, c'.store.jobs.get? a = some left := by
  have hrecord := h.record
  cases r with
  | kept => exact ⟨job, by rw [hrecord.1, hjob]⟩
  | recorded status =>
    obtain ⟨_, _, _, -, hjobs, -⟩ := hrecord
    exact ⟨_, by rw [hjobs, Dict.get?_insert_self]⟩
  | removed => exact absurd rfl hr

/-- The records of other jobs stay as they are. -/
theorem get?_of_ne (h : Resolved a r c c') {b : Address} (hne : b ≠ a) :
    c'.store.jobs.get? b = c.store.jobs.get? b := by
  have hrecord := h.record
  cases r with
  | kept => rw [hrecord.1]
  | recorded status =>
    obtain ⟨_, _, _, _, hjobs, -⟩ := hrecord
    rw [hjobs, Dict.get?_insert_ne _ _ hne]
  | removed =>
    rcases hrecord.1 with hjobs | ⟨hjobs, -⟩
    · rw [hjobs, Dict.get?_erase, if_neg fun heq => hne (Std.LawfulEqCmp.compare_eq_iff_eq.1 heq)]
    · rw [hjobs]

end Resolved

end Controller

end TrainingJobs
