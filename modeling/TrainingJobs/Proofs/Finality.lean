/-
A verdict is for good, and a job that has one gets nothing more.

A pass may write a job's status again after the verdict, but only with a verdict in it, whether the job is
brought to its end once more, goes over a limit late, or is turned down for a spec that others have spoilt; and a
pass that fails writes nothing. So along every course of passes the job stays finished as long as nobody else
writes its status. And no pass of such a course makes a pod, a service or a pod group (`MakesNothing`), whatever
becomes of those that there are. `finished_for_good` is both at once. What happens to a store with many jobs,
passes over the others among it, makes a course for each of them (`course_runThrough`).
-/
import TrainingJobs.Proofs.Convergence
import TrainingJobs.Proofs.Ending
import TrainingJobs.Proofs.Reachability
import TrainingJobs.Proofs.Separation
import TrainingJobs.Proofs.SuccessVerdict

set_option autoImplicit false

namespace TrainingJobs

open Controller

/-! ## The verdict stays -/

namespace Job

/-- A pass that ends well leaves a job finished that has its verdict. -/
theorem isFinished_outlook {stored : Job} (now : Timestamp) (c : Controller MemoryStore)
    (h : stored.currentStatus.isFinished = true) :
    ((stored.outlook now c).statusAfter stored.currentStatus).isFinished = true := by
  unfold outlook
  simp only
  rcases stored.withDefaults.spec.fault? with _ | fault
  · have hverdict : stored.withDefaults.currentStatus.isFinished = true := h
    by_cases hheld : stored.withDefaults.HeldUp now c
    · simp only [if_pos hheld]
      exact h
    · have hfinished : (stored.withDefaults.takenIn now).isFinished = true := by
        rw [isFinished_takenIn]
        exact hverdict
      simp only [if_neg hheld]
      unfold resolved
      simp only [hfinished, Bool.true_or, if_true]
      exact isFinished_ended now _ hverdict
  · simp only
    split
    · exact h
    · -- A job that is turned down has failed.
      change (JobStatus.note _ _ _ _ _).isFinished = true
      rw [JobStatus.isFinished_note]
      exact Bool.or_true _

end Job

/-- The job at `a`, if there is one, has its verdict. -/
def Concluded (a : Address) (c : Controller MemoryStore) : Prop :=
  ∀ job, c.store.jobs.get? a = some job → job.address = a ∧ job.currentStatus.isFinished = true

section Concluded

variable {key : String} {a : Address} {c c' : Controller MemoryStore}

/-- What others do leaves a verdict in place. -/
theorem Concluded.aside (h : Concluded a c) (hc : Undisturbed a c c') : Concluded a c' := by
  intro job' hjob'
  obtain ⟨haddress, job, hjob, hstatus⟩ := hc job' hjob'
  rw [hstatus]
  exact ⟨haddress, (h job hjob).2⟩

/-- A pass leaves the verdict standing, however it ends. -/
theorem Concluded.sync (hkey : splitKey? key = some (a.ns, a.name)) (h : Concluded a c) (now : Timestamp) :
    Concluded a ((sync now key).run c).2 := by
  intro job' hjob'
  obtain ⟨stored, hstored, hsame, hstatus⟩ :=
    exists_stored_of_sync now hkey (fun stored hstored => (h stored hstored).1) hjob'
  obtain ⟨haddress, hfinished⟩ := h stored hstored
  refine ⟨hsame.address.trans haddress, ?_⟩
  -- The pass wrote no status, or one that keeps the verdict.
  obtain ⟨-, hstatus⟩ | ⟨-, hstatus⟩ := hstatus
  · rw [hstatus]
    exact hfinished
  · rw [hstatus]
    exact Job.isFinished_outlook now c hfinished

end Concluded

/-! ## Nothing is made -/

/-- The operation makes a new object. -/
def StoreOp.creates : StoreOp → Bool
  | createPod | createService | createPodGroup => true
  | _ => false

/-- No pod, service or pod group has come up. Nor was one asked for and refused: the failures that wait for
creations still do. -/
structure MakesNothing (c c' : Controller MemoryStore) : Prop extends AddsNothing c c' where
  podGroups : ∀ x group, c'.store.podGroups.get? x = some group → c.store.podGroups.get? x = some group
  refusals : (c'.store.failures.filter fun f => f.1.creates) = c.store.failures.filter fun f => f.1.creates

namespace MakesNothing

variable {c c' : Controller MemoryStore}

/-- Where nothing has changed in pods, services, pod groups and pending failures of creations, nothing was made. -/
theorem of_eq (hpods : c'.store.pods = c.store.pods) (hservices : c'.store.services = c.store.services)
    (hgroups : c'.store.podGroups = c.store.podGroups)
    (hfailures : (c'.store.failures.filter fun f => f.1.creates) = c.store.failures.filter fun f => f.1.creates) :
    MakesNothing c c' :=
  ⟨.of_eq hpods hservices, fun _ _ h => hgroups ▸ h, hfailures⟩

theorem refl (c : Controller MemoryStore) : MakesNothing c c := .of_eq rfl rfl rfl rfl

theorem trans {c₁ c₂ c₃ : Controller MemoryStore} (h₁ : MakesNothing c₁ c₂) (h₂ : MakesNothing c₂ c₃) :
    MakesNothing c₁ c₃ where
  toAddsNothing := addsNothing_frame.trans h₁.toAddsNothing h₂.toAddsNothing
  podGroups x group h := h₁.podGroups x group (h₂.podGroups x group h)
  refusals := h₂.refusals.trans h₁.refusals

end MakesNothing

namespace MemoryStore

/-- A failure that an operation takes was waiting for that operation and for no other. -/
theorem filter_takeFailure? {op : StoreOp} {failures rest : List (StoreOp × OperatorError)} {e : OperatorError}
    {p : StoreOp → Bool} (hop : p op = false) (h : takeFailure? op failures = some (e, rest)) :
    (rest.filter fun f => p f.1) = failures.filter fun f => p f.1 := by
  obtain ⟨before, after, rfl, rfl, -⟩ := exists_of_takeFailure? h
  rw [List.filter_append, List.filter_append, List.filter_cons_of_neg (by simp [hop])]

end MemoryStore

namespace Controller

open MemoryStore

/-- A request that creates nothing makes nothing, if it makes nothing when it is not refused. -/
theorem makesNothing_guarded {α : Type} {op : StoreOp} {run : StoreM MemoryStore α} {c : Controller MemoryStore}
    (hop : op.creates = false) (hrun : MakesNothing c { c with store := (run.run c.store).2 }) :
    MakesNothing c (requested (guarded op run) c) := by
  unfold requested
  rw [run_guarded]
  rcases hfailure : takeFailure? op c.store.failures with _ | ⟨e, rest⟩
  · exact hrun
  · exact .of_eq rfl rfl rfl (filter_takeFailure? hop hfailure)

/-- A deletion makes nothing if its change does not. -/
theorem makesNothing_delete {α : Type} {op : StoreOp} {kind : String} {objects : MemoryStore → Dict Address α}
    {withObjects : MemoryStore → Dict Address α → MemoryStore} {a : Address} {c : Controller MemoryStore}
    (hop : op.creates = false) (hrun : MakesNothing c { c with store := removed objects withObjects a c.store }) :
    MakesNothing c (requested (guarded op (delete kind objects withObjects a)) c) := by
  refine makesNothing_guarded hop ?_
  rw [run_delete]
  split
  · exact hrun
  · exact .refl c

/-- Writing a status makes nothing. -/
theorem makesNothing_updateJobStatus (job : Job) (status : JobStatus) (c : Controller MemoryStore) :
    MakesNothing c (requested (ObjectStore.updateJobStatus job status) c) := by
  refine makesNothing_guarded rfl ?_
  rw [run_writeStatus]
  split
  · exact .refl c
  · exact .of_eq (pods_recorded _ _ _) (services_recorded _ _ _) (podGroups_recorded _ _ _)
      (by rw [failures_recorded])

/-- A call that creates nothing makes nothing. -/
theorem makesNothing_call (call : StoreCall) (hcall : call.creates = false) (c : Controller MemoryStore) :
    MakesNothing c (requested (call.op : StoreM MemoryStore call.Answer) c) := by
  cases call with
  | createPod | createService | createPodGroup => exact Bool.noConfusion hcall
  | listPods | listServices | getPodGroup => exact .refl c
  | getJob a => exact makesNothing_guarded rfl (.refl c)
  | updateJobStatus job status => exact makesNothing_updateJobStatus job status c
  -- What is left after a deletion was there before.
  | deleteJob a => exact makesNothing_delete rfl (.of_eq rfl rfl rfl rfl)
  | deletePod a => exact makesNothing_delete rfl ⟨⟨fun _ _ => Dict.get?_of_erase, fun _ _ => id⟩, fun _ _ => id, rfl⟩
  | deleteService a =>
    exact makesNothing_delete rfl ⟨⟨fun _ _ => id, fun _ _ => Dict.get?_of_erase⟩, fun _ _ => id, rfl⟩
  | deletePodGroup a =>
    exact makesNothing_delete rfl ⟨.of_eq rfl rfl, fun _ _ => Dict.get?_of_erase, rfl⟩

/-- Every call that is no creation makes nothing, and nor do the other things that a pass does. -/
theorem enduring_makesNothing : Enduring (fun call => call.creates = false) MakesNothing where
  refl := .refl
  trans := .trans
  told _ _ := .of_eq rfl rfl rfl rfl
  call := makesNothing_call
  expected _ _ := .of_eq rfl rfl rfl rfl

/-- A pass over a job that has its verdict makes nothing, and neither does one over a job that is gone. -/
theorem makesNothing_sync {key : String} {a : Address} {c : Controller MemoryStore}
    (hkey : splitKey? key = some (a.ns, a.name)) (h : Concluded a c) (now : Timestamp) :
    MakesNothing c ((sync now key).run c).2 := by
  refine kept_sync_of_finished enduring_makesNothing (fun _ => id) hkey ?_
  rw [yields_request, run_getJob]
  rcases takeFailure? .getJob c.store.failures with _ | ⟨e, rest⟩
  · exact fun stored hstored => (h stored hstored).2
  · trivial

end Controller

/-! ## Courses -/

/-- **A job that has its verdict keeps it, and no pass makes anything for it.** Along every course of passes over a
job that was finished, at whatever times they are made, whichever requests are refused, and whatever others do
in between to the job, its spec, its pods and the store, its status being written by passes alone: where the job
is still there it is finished, and no pass made a pod, a service or a pod group. -/
theorem finished_for_good {key : String} {a : Address} {start c : Controller MemoryStore} {stored : Job}
    {visits : List Visit} (hkey : splitKey? key = some (a.ns, a.name))
    (hstored : start.store.jobs.get? a = some stored) (haddress : stored.address = a)
    (hfinished : stored.currentStatus.isFinished = true) (hcourse : Course key a start visits c) :
    (∀ job, c.store.jobs.get? a = some job → job.currentStatus.isFinished = true) ∧
      ∀ v ∈ visits, MakesNothing v.found ((sync v.now key).run v.found).2 := by
  have hcourse : Concluded a c ∧ ∀ v ∈ visits, MakesNothing v.found ((sync v.now key).run v.found).2 := by
    -- Each pass finds the verdict that those before it have left.
    induction hcourse with
    | start =>
      refine ⟨fun job hjob => ?_, fun v hv => absurd hv List.not_mem_nil⟩
      rw [hstored, Option.some.injEq] at hjob
      exact hjob ▸ ⟨haddress, hfinished⟩
    | @visit visits c now _ ih =>
      obtain ⟨hconcluded, hvisits⟩ := ih
      refine ⟨hconcluded.sync hkey now, fun v hv => ?_⟩
      rcases List.mem_append.1 hv with hv | hv
      · exact hvisits v hv
      · rw [List.mem_singleton.1 hv]
        exact makesNothing_sync hkey hconcluded now
    | aside _ hc ih => exact ⟨ih.1.aside hc, ih.2⟩
  exact ⟨fun job hjob => (hcourse.1 job hjob).2, hcourse.2⟩

/-! ## Runs are courses -/

/-- The pass over the job under a key that happens at that point of a run, if one does. -/
def Happening.visit? (key : String) (c : Controller MemoryStore) : Happening → Option Visit
  | move k (.pass now) => if k = key then some ⟨now, c⟩ else none
  | _ => none

/-- The passes of a run over the job under a key. -/
def passesOver (key : String) : List Happening → Controller MemoryStore → List Visit
  | [], _ => []
  | happening :: rest, c => (happening.visit? key c).toList ++ passesOver key rest (happening.make c)

section Runs

variable {key : String} {a : Address} {start c c' : Controller MemoryStore} {visits : List Visit}

/-- The happenings that visit a job are the passes over it. -/
theorem exists_pass_of_visit? {happening : Happening} {v : Visit} (h : happening.visit? key c = some v) :
    ∃ now, happening = .move key (.pass now) ∧ v = ⟨now, c⟩ := by
  unfold Happening.visit? at h
  split at h
  · next k now =>
    split at h
    · next hk => exact ⟨now, by rw [hk], (Option.some.inj h).symm⟩
    · exact absurd h (by simp)
  · exact absurd h (by simp)

/-- Whatever happens to a store is one of the things that can be done to it, or a pass. -/
theorem accessed_make (happening : Happening) (c : Controller MemoryStore) :
    c.store.Accessed (happening.make c).store := by
  -- Each happening is at most one access of the store; a pass is the accesses of its calls.
  cases happening with
  | move key m =>
    cases m with
    | pass now =>
      change c.store.Accessed (c.process now key).2.store
      rw [store_process]
      exact accessed_sync now key c
    | clock now => exact .single (.clock now) c.store
    | phase x phase => exact .single (.setPodPhase x phase) c.store
    | report x status =>
      change c.store.Accessed (c.store.setPodStatus x status)
      unfold MemoryStore.setPodStatus
      split
      · exact .single (.insertPod _) c.store
      · exact .refl
    | sight sighting =>
      change c.store.Accessed (sighting.take c).store
      rw [store_take]
      exact .refl
  | podRemoved x => exact .single (.removePod x) c.store
  | edited x spec =>
    change c.store.Accessed (c.store.setJobSpec x spec)
    unfold MemoryStore.setJobSpec
    split
    · exact .single (.insertJob _) c.store
    · exact .refl
  | failing op error => exact .single (.failNext op error) c.store

/-- What leaves the record of a job alone disturbs it in no way. -/
theorem Undisturbed.of_get?_eq (hc : c.store.Enrolled) (h : c'.store.jobs.get? a = c.store.jobs.get? a) :
    Undisturbed a c c' := by
  intro job hjob
  rw [h] at hjob
  exact ⟨(hc a job hjob).1, job, hjob, rfl⟩

/-- A job whose spec is edited has the status that it had. -/
theorem undisturbed_setJobSpec (hc : c.store.Enrolled) (x : Address) (spec : JobSpec) :
    Undisturbed a c { c with store := c.store.setJobSpec x spec } := by
  rcases hold : c.store.jobs.get? x with _ | old
  · refine .of_get?_eq hc ?_
    unfold MemoryStore.setJobSpec
    rw [hold]
  · obtain ⟨edited, hplace, hstatus, heq⟩ := MemoryStore.setJobSpec_of_stored hold (hc x old hold).1 spec
    rw [heq]
    -- Whether the edited job is this one: its spec changes, its address and status do not.
    by_cases hx : a = x
    · subst hx
      intro job hjob
      obtain rfl := Option.some.inj ((Dict.get?_insert_self _ _ _).symm.trans hjob)
      exact ⟨hplace, old, hold, congrArg (fun status => status.getD {}) hstatus⟩
    · exact .of_get?_eq hc (Dict.get?_insert_ne _ _ hx)

/-- A pass over one job leaves the record of every other alone. -/
theorem get?_jobs_sync_of_ne (hc : c.store.Enrolled) {k : String}
    (hother : splitKey? k ≠ some (a.ns, a.name)) (now : Timestamp) :
    ((sync now k).run c).2.store.jobs.get? a = c.store.jobs.get? a := by
  -- A key that does not split asks for nothing; any other pass writes only at its own address.
  rcases hparts : splitKey? k with _ | ⟨ns, name⟩
  · have hrun := run_sync_of_unsplit hparts now c
    rw [hrun]
  · have hne : a ≠ ⟨ns, name⟩ := by
      rintro rfl
      exact hother hparts
    rcases hstored : c.store.jobs.get? ⟨ns, name⟩ with _ | stored
    · rw [(sameRecords_sync_of_absent (a := ⟨ns, name⟩) now hparts hstored).jobs]
    · have hpass := yields_sync (a := ⟨ns, name⟩) now hparts hstored (hc _ stored hstored).1
      have hrecord : Yields (sync now k) c (fun _ c' => c'.store.jobs.get? a = c.store.jobs.get? a)
          fun _ c' => c'.store.jobs.get? a = c.store.jobs.get? a :=
        hpass.mono (fun _ _ h => h.2.get?_of_ne hne) fun _ _ h => by rw [h.jobs]
      exact hrecord.run

/-- What is no pass over a job leaves its status alone. -/
theorem undisturbed_make (hkey : splitKey? key = some (a.ns, a.name)) (hc : c.store.Enrolled)
    {happening : Happening} (hnot : happening.visit? key c = none) : Undisturbed a c (happening.make c) := by
  cases happening with
  | move k m =>
    cases m with
    | pass now =>
      refine .of_get?_eq hc ?_
      change (c.process now k).2.store.jobs.get? a = _
      rw [store_process]
      refine get?_jobs_sync_of_ne hc (fun hsame => ?_) now
      -- Two keys of one job are one key, and passes under that are not meant.
      have hk : k = key := (keyFor_of_splitKey? hsame).symm.trans (keyFor_of_splitKey? hkey)
      subst hk
      exact absurd hnot (by simp [Happening.visit?])
    | clock now => exact .of_get?_eq hc rfl
    | phase x phase =>
      have hrest := MemoryStore.sameBesidePods_setPodPhase c.store x phase
      exact .of_get?_eq hc (congrArg (Dict.get? · a) hrest.jobs)
    | report x status =>
      have hrest := MemoryStore.sameBesidePods_setPodStatus c.store x status
      exact .of_get?_eq hc (congrArg (Dict.get? · a) hrest.jobs)
    | sight sighting => exact .of_get?_eq hc (by rw [show Happening.make c _ = sighting.take c from rfl, store_take])
  | podRemoved x => exact .of_get?_eq hc rfl
  | edited x spec => exact undisturbed_setJobSpec hc x spec
  | failing op error => exact .of_get?_eq hc rfl

/-- What happens to an enrolled job continues its course: a pass as a visit, all else as something aside. -/
theorem Course.make (hkey : splitKey? key = some (a.ns, a.name)) (hcourse : Course key a start visits c)
    (hc : c.store.Enrolled) (happening : Happening) :
    Course key a start (visits ++ (happening.visit? key c).toList) (happening.make c) := by
  rcases hvisit : happening.visit? key c with _ | v
  · rw [Option.toList_none, List.append_nil]
    exact hcourse.aside (undisturbed_make hkey hc hvisit)
  · -- It is a pass over the job, and what is left to do after it is to count or to forget its retries.
    obtain ⟨now, rfl, rfl⟩ := exists_pass_of_visit? hvisit
    refine (hcourse.visit now).aside (.of_get?_eq (hc.accessed (accessed_sync now key c)) ?_)
    change (c.process now key).2.store.jobs.get? a = _
    rw [store_process]

/-- **Every run is a course for every job**, through the passes over that job. -/
theorem course_runThrough (hkey : splitKey? key = some (a.ns, a.name)) (hstart : start.store.Enrolled)
    (happenings : List Happening) :
    Course key a start (passesOver key happenings start) (runThrough happenings start) := by
  have hrest : ∀ (happenings : List Happening) (visits : List Visit) (c : Controller MemoryStore),
      c.store.Enrolled → Course key a start visits c →
      Course key a start (visits ++ passesOver key happenings c) (runThrough happenings c) := by
    intro happenings
    -- The visits made so far are the accumulator, so the induction is for every one of them.
    induction happenings with
    | nil =>
      intro visits c _ hcourse
      rw [passesOver, List.append_nil]
      exact hcourse
    | cons happening rest ih =>
      intro visits c hc hcourse
      rw [passesOver, ← List.append_assoc]
      exact ih _ _ (hc.accessed (accessed_make happening c)) (hcourse.make hkey hc happening)
  exact hrest happenings [] start hstart .start

end Runs

/-- A job that is done, with a worker still running and no master any more. -/
def leftRunning : Controller MemoryStore :=
  let job := sampleJob { cleanPodPolicy := some .running }
    [(masterType, sampleType 1 .never), (workerType, sampleType 2 .exitCode)] (some {
      conditions := [.holding .succeeded Reason.jobSucceeded "XGBoostJob iris is successfully completed." (sampleTime 30)]
      startTime := some (sampleTime 0) })
  sampleStartWith job [samplePod workerType 1 "Running" none]

/-- A pass that cannot delete the worker, an edit that takes the types from the spec, a pass that turns the job
down for it, the edit taken back, and another pass when the worker is gone. -/
def spoiltForAWhile : List Happening :=
  let types := [(masterType, sampleType 1 .never), (workerType, sampleType 2 .exitCode)]
  [.failing .deletePod (.timeout "delete pod"), .move sampleKey (.pass (sampleTime 31)),
    .edited sampleAddress { runPolicy := {}, replicaSpecs := ∅ }, .move sampleKey (.pass (sampleTime 32)),
    .edited sampleAddress { runPolicy := {}, replicaSpecs := .ofList types },
    .podRemoved ⟨"default", slotName "iris" workerType 1⟩,
    .move sampleKey (.sight (.podDeleted (samplePod workerType 1 "Running" none))),
    .move sampleKey (.pass (sampleTime 33))]

/-- The job is finished in the end, although it lacks its master and has been failed on top of being done. -/
theorem leftRunning_stays_finished :
    (passesOver sampleKey spoiltForAWhile leftRunning).length = 3 ∧
      (∀ job, (runThrough spoiltForAWhile leftRunning).store.jobs.get? sampleAddress = some job →
        job.currentStatus.isFinished = true) ∧
      ∀ v ∈ passesOver sampleKey spoiltForAWhile leftRunning,
        MakesNothing v.found ((sync v.now sampleKey).run v.found).2 := by
  have henrolled : leftRunning.store.Enrolled := by decide +kernel
  have hstart : (leftRunning.store.jobs.get? sampleAddress).map (fun job => job.currentStatus.isFinished) =
      some true := by decide +kernel
  obtain ⟨stored, hstored, hfinished⟩ := Option.map_eq_some_iff.1 hstart
  exact ⟨by decide +kernel, finished_for_good splitKey?_sampleKey hstored (henrolled _ stored hstored).1 hfinished
    (course_runThrough splitKey?_sampleKey henrolled spoiltForAWhile)⟩

end TrainingJobs
