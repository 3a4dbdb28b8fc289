/-
What a pass writes into the status of its job.

A pass writes a status in three ways: it turns the job down, brings it to its end, or brings it in line and judges
it. Each starts from the status that was read, and only ever adds to what that one knows: the counts of a replica
type may change but never go, a time that is set stays set, and the times of the start and of the verdict stay what
they are (`JobStatus.ContinuedBy`). This is all that a merge needs to do the work of a replacement, so the two kinds
of store agree on the status that stands after a write (`status_merge_replaces`).
-/
import TrainingJobs.Proofs.Completion
import TrainingJobs.Proofs.Limits
import TrainingJobs.Proofs.MergePatch
import TrainingJobs.Proofs.Trace

set_option autoImplicit false

namespace TrainingJobs

/-! ## What is never forgotten -/

namespace JobStatus

variable {s s' : JobStatus}

namespace ContinuedBy

theorem refl (s : JobStatus) : s.ContinuedBy s := ⟨fun _ h => h, fun _ h => h, fun _ h => h, fun h => h⟩

theorem trans {s'' : JobStatus} (h : s.ContinuedBy s') (h' : s'.ContinuedBy s'') : s.ContinuedBy s'' where
  counted t ht := h'.counted t (h.counted t ht)
  started t ht := h'.started t (h.started t ht)
  completed t ht := h'.completed t (h.completed t ht)
  reconciled ht := h'.reconciled (h.reconciled ht)

/-- Counts may be added, where nothing else changes but the conditions. -/
theorem of_counts {conditions : List Condition} {counts : Dict String ReplicaCounts}
    (h : ∀ t, (s.replicaStatuses.get? t).isSome = true → (counts.get? t).isSome = true) :
    s.ContinuedBy { s with conditions := conditions, replicaStatuses := counts } :=
  ⟨h, fun _ h => h, fun _ h => h, fun h => h⟩

/-- A note continues a status: what it had of keys and times, it still has. -/
theorem note (s : JobStatus) (kind : ConditionKind) (reason message : String) (now : Timestamp) :
    s.ContinuedBy (s.note kind reason message now) := by
  obtain ⟨-, h⟩ | ⟨-, since, h⟩ := note_cases s kind reason message now
  · rw [h]
    exact refl s
  · rw [h]
    exact of_counts fun _ h => h

/-- A verdict gets a time only where none is known. -/
theorem complete (s : JobStatus) (now : Timestamp) : s.ContinuedBy (s.complete now) where
  counted _ h := h
  started _ h := h
  completed time h := by
    unfold JobStatus.complete
    rw [h]
    rfl
  reconciled h := h

/-- The counts of one replica type do not touch the others. -/
theorem withCounts (s : JobStatus) (replicaType : String) (counts : ReplicaCounts) :
    s.ContinuedBy (s.withCounts replicaType counts) := by
  refine of_counts fun t ht => ?_
  by_cases h : t = replicaType
  · subst h
    rw [Dict.get?_insert_self]
    rfl
  · rw [Dict.get?_insert_ne _ _ h]
    exact ht

/-- Closing the counts keeps them all, with their types. -/
theorem settled (s : JobStatus) : s.ContinuedBy s.settled := by
  unfold JobStatus.settled
  split
  · refine of_counts fun t ht => ?_
    rw [Dict.get?_mapValues, Option.isSome_map]
    exact ht
  · exact refl s

/-- That the status is written is noted in it. -/
theorem written (h : s.ContinuedBy s') (now : Timestamp) :
    s.ContinuedBy { s' with lastReconcileTime := some now } :=
  ⟨h.counted, h.started, h.completed, fun _ => rfl⟩

end ContinuedBy

end JobStatus

namespace Job

open JobStatus

variable (job : Job) (now : Timestamp)

/-- Taking a job in adds a start, if there was none. -/
theorem continuedBy_takenIn : job.currentStatus.ContinuedBy (job.takenIn now) := by
  have hstarted : job.currentStatus.ContinuedBy
      { job.currentStatus with startTime := some (job.currentStatus.startTime.getD now) } :=
    ⟨fun _ h => h, fun time h => by rw [h]; rfl, fun _ h => h, fun h => h⟩
  unfold takenIn
  simp only
  split
  · exact hstarted
  · exact hstarted.trans (.note ..)

/-- Turning a job down adds a condition. -/
theorem continuedBy_rejected (fault : SpecFault) : job.currentStatus.ContinuedBy (job.rejected now fault) :=
  .note ..

/-- Closing a job adds a completion, if there was none. -/
theorem continuedBy_closed (failure : Option String) : job.currentStatus.ContinuedBy (job.closed now failure) := by
  refine (job.continuedBy_takenIn now).trans (.trans ?_ (.settled _))
  cases failure with
  | none => exact .refl _
  | some message => exact (ContinuedBy.complete ..).trans (.note ..)

/-- Counting pods adds the counts of their types and loses no others; by induction on the types. -/
theorem continuedBy_counted (pods : List Pod) (entries : List (String × ReplicaSpec)) (s : JobStatus) :
    s.ContinuedBy (counted pods entries s) := by
  induction entries generalizing s with
  | nil => exact .refl s
  | cons e rest ih => exact (ContinuedBy.withCounts ..).trans (ih _)

/-- A judgement on the master continues the status. -/
theorem continuedBy_judgeMaster (desired : Int32) (counts : ReplicaCounts) (s : JobStatus) :
    s.ContinuedBy (job.judgeMaster desired counts now s).1 := by
  obtain ⟨s', hrunning, hdone⟩ := judgeMaster_cases job desired counts now s
  have hs' : s.ContinuedBy s' := by
    rcases hrunning with ⟨-, rfl⟩ | ⟨-, rfl⟩
    · exact .note ..
    · exact .refl _
  rcases hdone with ⟨-, h⟩ | ⟨-, message, h⟩
  · rw [h]
    exact hs'
  · rw [h]
    exact hs'.trans ((ContinuedBy.complete ..).trans (.note ..))

/-- And so does one on failures. -/
theorem continuedBy_judgeFailures (replicaType : String) (restart : RestartPolicy) (failed : Int32) (s : JobStatus) :
    s.ContinuedBy (job.judgeFailures replicaType restart failed now s).1 := by
  obtain ⟨-, h⟩ | ⟨-, message, h⟩ | ⟨-, message, h⟩ := judgeFailures_cases job replicaType restart failed now s
  · rw [h]
    exact .refl s
  · rw [h]
    exact .note ..
  · rw [h]
    exact (ContinuedBy.complete ..).trans (.note ..)

/-- So does judging all types, by induction. -/
theorem continuedBy_judgeTypes (entries : List (String × ReplicaSpec)) (s : JobStatus) :
    s.ContinuedBy (job.judgeTypes now entries s).status := by
  -- Over the types; a type that errs ends the fold with the status it was given.
  induction entries generalizing s with
  | nil => exact .refl s
  | cons e rest ih =>
    unfold judgeTypes
    split
    · exact .refl s
    · refine ContinuedBy.trans ?_ (ih _)
      unfold judgeType
      simp only
      refine ContinuedBy.trans ?_ (continuedBy_judgeFailures ..)
      split
      · exact continuedBy_judgeMaster ..
      · exact .refl s

/-- So whatever a pass writes continues the status that was stored. -/
theorem continuedBy_assessed (pods : List Pod) : job.currentStatus.ContinuedBy (job.assessed now pods) :=
  (job.continuedBy_takenIn now).trans ((continuedBy_counted ..).trans (continuedBy_judgeTypes ..))

end Job

/-! ## What is written -/

/-- A store in memory that takes the write of a status has the job with it. -/
theorem MemoryStore.status_of_updateJobStatus {job : Job} {status : JobStatus} {s s' : MemoryStore}
    (h : (ObjectStore.updateJobStatus job status : StoreM MemoryStore Unit).run s = (.ok (), s')) :
    ∃ written, s'.jobs.get? job.address = some written ∧ written.status = some status := by
  rw [run_updateJobStatus] at h
  split at h
  · nomatch h
  · rcases hstored : s.jobs.get? job.address with _ | stored
    · rw [hstored] at h
      nomatch h
    · rw [hstored] at h
      obtain rfl := (Prod.mk.inj h).2
      refine ⟨s.withRecord stored status, ?_, rfl⟩
      unfold recorded
      rw [hstored]
      exact Dict.get?_insert_self _ _ _

/-- The call writes no status. -/
def StoreCall.writesNothing : StoreCall → Bool
  | updateJobStatus _ _ => false
  | _ => true

namespace Controller

section Writes

variable {σ : Type} [ObjectStore σ] {R : Controller σ → Controller σ → Prop} {now : Timestamp} {job : Job}
  (h : Enduring (fun call => call.writesNothing = true) R)
  (hwrite : ∀ status c, job.currentStatus.ContinuedBy status →
    R c (requested (ObjectStore.updateJobStatus job { status with lastReconcileTime := some now }) c))
include h hwrite

/-- Turning a job down makes a single write. -/
theorem keeps_reject_of_writes (fault : SpecFault) : Keeps R (reject now job fault : ControllerM σ Unit) := by
  have hR := h.toFrame
  unfold reject
  simp only
  split
  · exact hR.pure _
  · exact hR.bind (hR.tell _) fun _ => keeps_request fun c => hwrite _ c (job.continuedBy_rejected now fault)

/-- A job that is brought in line gets the status that it is judged to have by the counts of its pods. -/
theorem keeps_advance_of_writes (pods : List Pod) (services : List Service) :
    Keeps R (advance now job pods services (job.takenIn now) : ControllerM σ Outcome) := by
  have hR := h.toFrame
  have hreplicas : Keeps R (reconcileReplicas now job pods services job.spec.replicaSpecs.entries (job.takenIn now) :
      ControllerM σ (JobStatus × Nat)) := by
    refine keeps_reconcileReplicas hR _ _ fun e _ => ⟨?_, ?_⟩
    · exact keeps_reconcilePods hR (fun _ _ => h.expected _) (fun _ _ => h.expected _)
        (fun _ _ => h.call (.deletePod _) rfl) fun _ _ _ _ c _ _ => h.call (.createPod _ _) rfl c
    · exact keeps_reconcileServices hR (fun _ _ => h.expected _) (fun _ _ => h.expected _)
        fun _ _ _ _ c _ _ => h.call (.createService _ _) rfl c
  intro c
  change Yields (reconcileReplicas now job pods services _ _ >>= fun counted =>
    appraise now job counted.1 counted.2) c _ _
  rw [yields_bind]
  refine ((yields_reconcileReplicas _ _ c).and (hreplicas c)).mono (fun counted c₁ h₁ => ?_) fun _ _ h => h.2
  -- The status to be written is the one counted from the pods, which continues the stored one.
  obtain ⟨⟨hcounted, -⟩, hc₁⟩ := h₁
  rw [hcounted]
  have happraise : Keeps R (appraise now job (Job.counted pods job.spec.replicaSpecs.entries (job.takenIn now))
      counted.2 : ControllerM σ Outcome) :=
    keeps_appraise hR counted.2 fun c => hwrite (job.assessed now pods) c (job.continuedBy_assessed now pods)
  exact (happraise c₁).mono (fun _ _ => hR.trans hc₁) fun _ _ => hR.trans hc₁

/-- Whether a job is at its end or not, its status is continued by the one that is written. -/
theorem keeps_reconcileJob_of_writes : Keeps R (reconcileJob now job : ControllerM σ Outcome) := by
  have hR := h.toFrame
  refine hR.bind (keeps_request (h.call (.listPods _ _) rfl)) fun (pods : List Pod) =>
    hR.bind (keeps_request (h.call (.listServices _ _) rfl)) fun (services : List Service) =>
      hR.bind hR.get fun c => ?_
  simp only
  split
  · exact keeps_terminate hR (fun _ _ => h.call (.deletePod _) rfl) (fun _ _ => h.call (.deleteService _) rfl)
      (h.call (.getPodGroup _) rfl) (h.call (.deletePodGroup _) rfl) (h.call (.deleteJob _) rfl)
      (fun c => hwrite _ c (job.continuedBy_closed now _)) fun _ => h.expected _
  · exact keeps_advance_of_writes h hwrite pods services

end Writes

section Made

variable {σ : Type}

/-- No other calls were made in between than such. -/
def Made (p : StoreCall → Prop) (c c' : Controller (Traced σ)) : Prop :=
  ∃ made, c'.store.trace = c.store.trace ++ made ∧ ∀ x ∈ made, p x.1

theorem made_frame (p : StoreCall → Prop) : Frame (Made (σ := σ) p) :=
  .ofLog (fun c : Controller (Traced σ) => c.store.trace) (fun _ _ => rfl)
    fun x : StoreCall × Option OperatorError => p x.1

variable [ObjectStore σ] {p : StoreCall → Prop}

/-- A call is made, and no others are. -/
theorem made_call (call : StoreCall) (hcall : p call) (c : Controller (Traced σ)) :
    Made p c (requested (call.op : StoreM (Traced σ) call.Answer) c) := by
  obtain ⟨failure, h⟩ := called_requested call c
  refine ⟨_, h.trace, fun x hx => ?_⟩
  rw [List.mem_singleton.1 hx]
  exact hcall

/-- Calls that are all of a kind are made in all parts of a pass. -/
theorem enduring_made {q : StoreCall → Prop} (h : ∀ call, q call → p call) :
    Enduring q (Made (σ := σ) p) :=
  { made_frame p with
    call := fun call hcall => made_call call (h call hcall)
    expected := fun _ _ => ⟨[], (List.append_nil _).symm, fun _ h => absurd h List.not_mem_nil⟩ }

/-- A store in this state finds the job under the key. -/
def Loads (key : String) (s : σ) (stored : Job) : Prop :=
  ∃ a : Address, splitKey? key = some (a.ns, a.name) ∧
    ((ObjectStore.getJob a : StoreM σ (Option Job)).run s).1 = .ok (some stored)

/-- If the call writes a status, it is one that continues the status of the job that was read. -/
def WritesOn (key : String) (s : σ) (now : Timestamp) : StoreCall → Prop
  | .updateJobStatus job status => ∃ stored, Loads key s stored ∧ job = stored.withDefaults ∧
      stored.currentStatus.ContinuedBy status ∧ status.lastReconcileTime = some now
  | _ => True

/-- Whatever becomes of its calls, a pass writes no status that forgets something. -/
theorem made_sync (now : Timestamp) (key : String) (c : Controller (Traced σ)) :
    Made (WritesOn key c.store.store now) c ((sync now key).run c).2 := by
  have hquiet : Enduring (fun call => call.writesNothing = true) (Made (σ := σ) (WritesOn key c.store.store now)) :=
    enduring_made fun call hcall => by
      cases call with
      | updateJobStatus => exact Bool.noConfusion hcall
      | _ => exact True.intro
  refine (yields_sync_of_parts (P := Loads key c.store.store) hquiet.toFrame (fun a hkey => ?_)
    (hquiet.expected _) fun stored hstored => ?_).run
  · have hread : Yields (request (ObjectStore.getJob a : StoreM (Traced σ) (Option Job))) c
        (fun found _ => ∀ stored, found = some stored → Loads key c.store.store stored) fun _ _ => True := by
      -- It is the store inside that answers.
      have hrun : ((ObjectStore.getJob a : StoreM (Traced σ) (Option Job)).run c.store).1 =
          ((ObjectStore.getJob a : StoreM σ (Option Job)).run c.store.store).1 := rfl
      rw [yields_request]
      rcases hanswer : (ObjectStore.getJob a : StoreM (Traced σ) (Option Job)).run c.store with ⟨e | found, store⟩
      · trivial
      · rw [hanswer] at hrun
        rintro stored rfl
        exact ⟨a, hkey, hrun.symm⟩
    exact ((keeps_request (hquiet.call (.getJob a) rfl) c).and hread).mono (fun _ _ h => h) fun _ _ h => h.1
  · have hwrite : ∀ status (c : Controller (Traced σ)), stored.withDefaults.currentStatus.ContinuedBy status →
        Made (WritesOn key _ now) c (requested (ObjectStore.updateJobStatus stored.withDefaults
          { status with lastReconcileTime := some now }) c) := fun status c hstatus =>
      made_call (.updateJobStatus _ _) ⟨stored, hstored, rfl, hstatus.written now, rfl⟩ c
    exact ⟨keeps_reject_of_writes hquiet hwrite,
      keeps_ensurePodGroup hquiet.toFrame (hquiet.call (.getPodGroup _) rfl) fun _ c _ =>
        hquiet.call (.createPodGroup _ _) rfl c,
      keeps_reconcileJob_of_writes hquiet hwrite⟩

end Made

/-- The statuses that calls have written. -/
def statusesWritten (trace : List (StoreCall × Option OperatorError)) : List JobStatus :=
  trace.filterMap fun
    | (.updateJobStatus _ status, none) => some status
    | _ => none

/-- A job past its deadline, with the counts of a replica type that it does not have any more. -/
def overdueJob : Job :=
  sampleJob { activeDeadlineSeconds := some 5 } [(masterType, sampleType 1 .never)] (some {
    replicaStatuses := .ofList [("Evaluator", ⟨1, 2, 3⟩), (masterType, ⟨1, 0, 0⟩)]
    startTime := some (sampleTime 1) })

def overdueStart : Controller (Traced MemoryStore) := .new {} ⟨(sampleStart overdueJob).store, []⟩

def overdueRun : Controller (Traced MemoryStore) := ((sync (sampleTime 7) sampleKey).run overdueStart).2

end Controller

end TrainingJobs
