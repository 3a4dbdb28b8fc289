/-
What a pass makes of the record of its job, worked out in advance.

Everything that a pass decides, it decides from what it finds: the stored job, the pods that carry the job's
labels, the retries counted, and the clock. `Job.outlook` is that decision without the requests in between,
and `yields_sync` says that a pass which ends well makes of the record what the outlook says, and that a pass
which fails makes nothing of it, at whichever request it failed.
-/
import TrainingJobs.Proofs.Names
import TrainingJobs.Proofs.Records

set_option autoImplicit false

namespace TrainingJobs

/-! ## The decision -/

namespace Job

/-- The pods in the store that carry the labels of the job. -/
def podsIn (job : Job) (s : MemoryStore) : List Pod :=
  MemoryStore.select s.pods job.ns (Labels.ofJob group job.name)

/-- The services in the store that carry the labels of the job. -/
def servicesIn (job : Job) (s : MemoryStore) : List Service :=
  MemoryStore.select s.services job.ns (Labels.ofJob group job.name)

/-- The status with the pods of all replica types counted, type by type. -/
def counted (pods : List Pod) : List (String × ReplicaSpec) → JobStatus → JobStatus
  | [], status => status
  | e :: rest, status => counted pods rest (Controller.countPods e.1 (Controller.podPlan e.1 e.2 pods) status)

/-- What writing a status makes of the record: nothing, if it is the status that is known. -/
def written (job : Job) (now : Timestamp) (status : JobStatus) : Controller.Resolution :=
  if status ≠ job.currentStatus then .recorded { status with lastReconcileTime := some now } else .kept

/-- What becomes of the record of a job at its end: it goes with the job once its time to live has passed. -/
def ended (job : Job) (now : Timestamp) (status : JobStatus) : Controller.Resolution :=
  match job.timeToLive? status now with
  | none => job.written now status
  | some remaining => if 0 < remaining then job.written now status else .removed

/-- The status that the counts of the pods give a job that is not at its end. -/
def assessed (job : Job) (now : Timestamp) (pods : List Pod) : JobStatus :=
  (job.judge now (counted pods job.spec.replicaSpecs.entries (job.takenIn now))).status

/-- The status of a job that is brought to its end, for the given reason if there is one. -/
def closed (job : Job) (now : Timestamp) (failure : Option String) : JobStatus :=
  (Controller.giveUp now failure (job.takenIn now)).settled

/-- What a look at the pods makes of the record of a job. -/
def resolved (job : Job) (now : Timestamp) (pods : List Pod) (retries : Nat) : Controller.Resolution :=
  let failure := job.exceeded? pods retries (job.takenIn now) now
  if (job.takenIn now).isFinished || failure.isSome then job.ended now (job.closed now failure)
  else job.written now (job.assessed now pods)

/-- The status of a job whose spec is not acceptable. -/
def rejected (job : Job) (now : Timestamp) (fault : SpecFault) : JobStatus :=
  job.currentStatus.note .failed Reason.invalidSpec
    ("Failed to validate XGBoostJob " ++ job.name ++ ": " ++ fault.toError.message) now

/-- A pass leaves the job alone: it is going, or something asked for on its behalf is outstanding. -/
def HeldUp (job : Job) (now : Timestamp) (c : Controller MemoryStore) : Prop :=
  job.isLeaving = true ∨ Controller.expectationsSatisfied now job c = false

instance (job : Job) (now : Timestamp) (c : Controller MemoryStore) : Decidable (job.HeldUp now c) :=
  inferInstanceAs (Decidable (_ ∨ _))

/-- What a pass that ends well makes of the record of the stored job. -/
def outlook (stored : Job) (now : Timestamp) (c : Controller MemoryStore) : Controller.Resolution :=
  let job := stored.withDefaults
  match job.spec.fault? with
  | some fault =>
    if job.currentStatus.isFailed then .kept
    else .recorded { job.rejected now fault with lastReconcileTime := some now }
  | none =>
    if job.HeldUp now c then .kept else job.resolved now (job.podsIn c.store) (c.retries.count job.key)

/-- A look at the pods has some of them replaced: the job is not at its end, and a plan has pods to be
replaced. -/
def Restarts (job : Job) (now : Timestamp) (pods : List Pod) (retries : Nat) : Prop :=
  (job.takenIn now).isFinished = false ∧ job.exceeded? pods retries (job.takenIn now) now = none ∧
    ∃ e ∈ job.spec.replicaSpecs.entries, (Controller.podPlan e.1 e.2 pods).restarts ≠ []

/-- A pass gets to the point where pods of the stored job are replaced. -/
def BacksOff (stored : Job) (now : Timestamp) (c : Controller MemoryStore) : Prop :=
  let job := stored.withDefaults
  job.spec.fault? = none ∧ ¬ job.HeldUp now c ∧ job.Restarts now (job.podsIn c.store) (c.retries.count job.key)

end Job

namespace Controller

open MemoryStore

variable {now : Timestamp} {job : Job} {c : Controller MemoryStore}

/-! ## Writing -/

/-- A write of the status of a stored job is made or refused. -/
theorem yields_updateJobStatus {stored : Job} {status : JobStatus}
    (hstored : c.store.jobs.get? job.address = some stored) :
    Yields (request (ObjectStore.updateJobStatus job status)) c
      (fun _ c' => Resolved job.address (.recorded status) c c') fun _ c' => SameRecords c c' := by
  rw [yields_request, run_updateJobStatus]
  rcases hfailure : takeFailure? .updateJobStatus c.store.failures with _ | ⟨e, rest⟩
  · simp only [hstored, recorded]
    exact ⟨.refl _, rfl, rfl, stored, _, _, hstored, rfl, rfl⟩
  · exact ⟨rfl, rfl, takeFailure?_sublist hfailure, rfl, rfl⟩

/-- To write a status is to record it, unless it is known already. -/
theorem yields_persist {stored : Job} {status : JobStatus}
    (hstored : c.store.jobs.get? job.address = some stored) :
    Yields (persist now job status) c (fun _ c' => Resolved job.address (job.written now status) c c')
      fun _ c' => SameRecords c c' := by
  unfold persist Job.written
  split
  · exact yields_updateJobStatus hstored
  · exact (SameRecords.refl c).resolved

/-- A stored job that is deleted is gone, or a failure was lined up: one that says that the job was gone
before is taken at its word, and any other is an error. -/
theorem yields_deleteJob {stored : Job} (hstored : c.store.jobs.get? job.address = some stored) :
    Yields (deleteJob job) c (fun _ c' => Resolved job.address .removed c c') fun _ c' => SameRecords c c' := by
  unfold deleteJob
  rw [yields_bind, yields_attempt, yields_request, run_deleteJob]
  rcases hfailure : takeFailure? .deleteJob c.store.failures with _ | ⟨e, rest⟩
  · have hjob : c.store.jobs.contains job.address := by
      rw [Dict.contains, hstored]
      rfl
    simp only
    rw [if_pos hjob]
    exact ⟨.refl _, rfl, rfl, .inl rfl, rfl⟩
  · -- The store refuses, perhaps because another took the job away.
    have hsub := takeFailure?_sublist hfailure
    have hsome : c.store.failures ≠ [] := by
      rintro hnil
      rw [hnil] at hfailure
      exact absurd hfailure (by simp [takeFailure?])
    simp only
    split
    · exact ⟨hsub, rfl, rfl, .inr ⟨rfl, hsome⟩, rfl⟩
    · exact ⟨rfl, rfl, hsub, rfl, rfl⟩

/-- To turn a job down is to record that, unless it has failed already. -/
theorem yields_reject {fault : SpecFault} {stored : Job}
    (hstored : c.store.jobs.get? job.address = some stored) :
    Yields (reject now job fault) c
      (fun _ c' => Resolved job.address
        (if job.currentStatus.isFailed then .kept
        else .recorded { job.rejected now fault with lastReconcileTime := some now }) c c')
      fun _ c' => SameRecords c c' := by
  unfold reject
  simp only
  by_cases hfailed : job.currentStatus.isFailed
  · rw [if_pos hfailed, if_pos hfailed]
    exact (SameRecords.refl c).resolved
  · rw [if_neg hfailed, if_neg hfailed, yields_bind, yields_tell]
    -- Telling the fault is all that happens before the write.
    have htold := fun events => sameRecords_frame.told c events
    exact (yields_updateJobStatus ((htold _).stored hstored)).mono (fun _ _ h => (htold _).trans_resolved h)
      fun _ _ h => (htold _).trans h

/-! ## The end of a job -/

/-- A job is removed when its time to live is over, and only then. -/
theorem yields_cleanUpJob {status : JobStatus} {stored : Job}
    (hstored : c.store.jobs.get? job.address = some stored) :
    Yields (cleanUpJob now job status) c
      (fun cleanup c' =>
        match cleanup with
        | .deleted => job.ended now status = .removed ∧ Resolved job.address .removed c c'
        | .kept | .due _ => job.ended now status = job.written now status ∧ SameRecords c c')
      fun _ c' => SameRecords c c' := by
  unfold cleanUpJob Job.ended
  rcases job.timeToLive? status now with _ | remaining
  · exact ⟨rfl, .refl c⟩
  · simp only
    by_cases hleft : 0 < remaining
    · rw [if_pos hleft, if_pos hleft]
      exact ⟨rfl, .refl c⟩
    · rw [if_neg hleft, if_neg hleft, yields_bind]
      exact (yields_deleteJob hstored).mono (fun _ _ h => ⟨rfl, h⟩) fun _ _ h => h

/-- The end of a job records it as closed, or removes it. -/
theorem yields_conclude {failure : Option String} {stored : Job}
    (hstored : c.store.jobs.get? job.address = some stored) :
    Yields (conclude now job (job.takenIn now) failure) c
      (fun outcome c' => outcome ≠ .backoff ∧
        Resolved job.address (job.ended now (job.closed now failure)) c c')
      fun _ c' => SameRecords c c' := by
  unfold conclude
  rw [yields_bind, yields_tellAll, yields_bind]
  have htold := fun events => sameRecords_frame.told c events
  refine (yields_cleanUpJob ((htold _).stored hstored)).mono (fun cleanup c₁ h₁ => ?_)
    fun _ _ h => (htold _).trans h
  -- However long the job still has to live, what is left to do is to write its status.
  have hwrite : ∀ outcome : Outcome, outcome ≠ .backoff →
      job.ended now (job.closed now failure) = job.written now (job.closed now failure) →
      SameRecords c c₁ → Yields (do persist now job (job.closed now failure); return outcome) c₁
        (fun outcome c' => outcome ≠ .backoff ∧
          Resolved job.address (job.ended now (job.closed now failure)) c c')
        fun _ c' => SameRecords c c' := by
    intro outcome houtcome hended hc₁
    rw [yields_bind]
    refine (yields_persist (hc₁.stored hstored)).mono (fun _ _ h => ⟨houtcome, ?_⟩) fun _ _ h => hc₁.trans h
    rw [hended]
    exact hc₁.trans_resolved h
  cases cleanup with
  | deleted =>
    obtain ⟨hended, hresolved⟩ := h₁
    refine ⟨Outcome.noConfusion, ?_⟩
    rw [Job.closed, hended]
    exact (htold _).trans_resolved hresolved
  | kept => exact hwrite .done Outcome.noConfusion h₁.1 ((htold _).trans h₁.2)
  | due remaining => exact hwrite (.requeue remaining) Outcome.noConfusion h₁.1 ((htold _).trans h₁.2)

/-- To bring a job to its end is to clean up, which touches no record, and then to conclude. -/
theorem yields_terminate_of_conclude {pods : List Pod} {status : JobStatus} {failure : Option String}
    {done : Outcome → Controller MemoryStore → Prop} {failed : OperatorError → Controller MemoryStore → Prop}
    (hconclude : ∀ c₁, SameRecords c c₁ → Yields (conclude now job status failure) c₁ done failed)
    (hfailed : ∀ e c₁, SameRecords c c₁ → failed e c₁) :
    Yields (terminate now job pods status failure) c done failed := by
  rw [terminate_eq, yields_bind]
  refine (sameRecords_cleanUpPods job _ c).mono (fun _ c₁ h₁ => ?_) hfailed
  rw [yields_bind, yields_get]
  split
  · rw [yields_bind]
    exact (sameRecords_deletePodGroup job c₁).mono (fun _ c₂ h₂ => hconclude c₂ (h₁.trans h₂))
      fun e c₂ h₂ => hfailed e c₂ (h₁.trans h₂)
  · exact hconclude c₁ h₁

/-- Bringing a job to its end resolves its record. Whatever is cleaned up before, the record is resolved from
what the pass had found. -/
theorem yields_terminate {pods : List Pod} {failure : Option String} {stored : Job}
    (hstored : c.store.jobs.get? job.address = some stored) :
    Yields (terminate now job pods (job.takenIn now) failure) c
      (fun outcome c' => outcome ≠ .backoff ∧
        Resolved job.address (job.ended now (job.closed now failure)) c c')
      fun _ c' => SameRecords c c' := by
  refine yields_terminate_of_conclude (fun c₁ h₁ => ?_) fun _ _ => id
  exact (yields_conclude (h₁.stored hstored)).mono (fun _ _ h => ⟨h.1, h₁.trans_resolved h.2⟩)
    fun _ _ h => h₁.trans h

/-! ## Bringing a job in line -/

/-- What is replaced is counted once the requests are made, and not at all when none are. -/
theorem yields_carryOut {σ : Type} [ObjectStore σ] {c : Controller σ} {replicaType : String} {spec : ReplicaSpec}
    {plan : PodPlan} : Yields (carryOut now job replicaType spec plan) c
      (fun replaced _ => replaced = 0 ∨ replaced = plan.restarts.length) fun _ _ => True := by
  unfold carryOut
  simp only
  split
  · exact .inl rfl
  · rw [yields_bind, yields_get]
    split
    · exact .inl rfl
    · rw [yields_bind, yields_expecting, yields_bind]
      exact (Yields.trivial _ _).mono (fun _ _ _ => .inr rfl) fun _ _ h => h

/-- The counts that come out are those of the pods that were listed, and nothing is replaced unless a plan
says so. -/
theorem yields_reconcileReplicas {σ : Type} [ObjectStore σ] {pods : List Pod} {services : List Service} :
    ∀ (entries : List (String × ReplicaSpec)) (status : JobStatus) (c : Controller σ),
      Yields (reconcileReplicas now job pods services entries status) c
        (fun result _ => result.1 = Job.counted pods entries status ∧
          (result.2 ≠ 0 → ∃ e ∈ entries, (podPlan e.1 e.2 pods).restarts ≠ []))
        fun _ _ => True
  | [], status, c => ⟨rfl, fun h => absurd rfl h⟩
  | e :: rest, status, c => by
    unfold reconcileReplicas
    rw [yields_bind]
    have hpods : Yields (reconcilePods now job e.1 e.2 pods) c
        (fun replaced _ => replaced = 0 ∨ replaced = (podPlan e.1 e.2 pods).restarts.length) fun _ _ => True := by
      unfold reconcilePods
      rw [yields_bind, yields_tellAll]
      exact yields_carryOut
    refine hpods.mono (fun replaced c₁ hreplaced => ?_) fun _ _ h => h
    rw [yields_bind]
    refine (Yields.trivial _ c₁).mono (fun _ c₂ _ => ?_) fun _ _ h => h
    rw [yields_bind]
    refine (yields_reconcileReplicas rest _ c₂).mono (fun result c₃ hresult => ?_) fun _ _ h => h
    refine ⟨hresult.1, fun hne => ?_⟩
    -- If the other types have nothing replaced, this one does.
    by_cases hmore : result.2 = 0
    · refine ⟨e, List.mem_cons_self, fun hnil => hne ?_⟩
      rw [hnil, List.length_nil, or_self] at hreplaced
      rw [hreplaced, hmore]
    · obtain ⟨e', he', hrestarts⟩ := hresult.2 hmore
      exact ⟨e', List.mem_cons_of_mem _ he', hrestarts⟩

/-- A pass that brings a job in line records the judgement by its counts. It ends in a retry only if pods are
being replaced. -/
theorem yields_advance {pods : List Pod} {services : List Service} {stored : Job}
    (hstored : c.store.jobs.get? job.address = some stored) :
    Yields (advance now job pods services (job.takenIn now)) c
      (fun outcome c' =>
        (outcome = .backoff → ∃ e ∈ job.spec.replicaSpecs.entries, (podPlan e.1 e.2 pods).restarts ≠ []) ∧
        Resolved job.address (job.written now (job.assessed now pods)) c c')
      fun _ c' => SameRecords c c' := by
  unfold advance
  rw [yields_bind]
  refine ((yields_reconcileReplicas _ _ c).and (sameRecords_reconcileReplicas now job pods services _ _ c)).mono
    (fun result c₁ h₁ => ?_) fun _ _ h => h.2
  obtain ⟨⟨hcounted, hreplaced⟩, hc₁⟩ := h₁
  obtain ⟨status, replaced⟩ := result
  simp only at hcounted hreplaced
  subst hcounted
  rw [yields_bind]
  unfold judge
  rw [yields_bind, yields_tellAll]
  have hc₂ := fun events => hc₁.trans (sameRecords_frame.told c₁ events)
  split
  · -- The judgement stopped short, so nothing is written.
    exact hc₂ _
  · rw [yields_pure, yields_bind]
    refine (yields_persist ((hc₂ _).stored hstored)).mono (fun _ c₃ h₃ => ?_) fun _ _ h => (hc₂ _).trans h
    have hresolved : Resolved job.address (job.written now (job.assessed now pods)) c c₃ :=
      (hc₂ _).trans_resolved h₃
    split
    · next hpos => exact ⟨fun _ => hreplaced (Nat.pos_iff_ne_zero.1 hpos), hresolved⟩
    · split
      · exact ⟨Outcome.noConfusion, hresolved⟩
      · split
        · exact ⟨Outcome.noConfusion, hresolved⟩
        · exact ⟨Outcome.noConfusion, hresolved⟩

/-! ## A pass -/

/-- A look at the pods is the end of the job when there is a verdict or a limit is passed, and brings it in line
otherwise. -/
theorem yields_reconcileJob_iff {done : Outcome → Controller MemoryStore → Prop}
    {failed : OperatorError → Controller MemoryStore → Prop} :
    Yields (reconcileJob now job) c done failed ↔
      let pods := job.podsIn c.store
      let failure := job.exceeded? pods (c.retries.count job.key) (job.takenIn now) now
      if (job.takenIn now).isFinished || failure.isSome then
        Yields (terminate now job pods (job.takenIn now) failure) c done failed
      else
        Yields (advance now job pods (job.servicesIn c.store) (job.takenIn now)) c done failed := by
  unfold reconcileJob Job.podsIn
  rw [yields_bind, yields_request, run_listPods]
  simp only
  rw [yields_bind, yields_request, run_listServices]
  simp only
  rw [yields_bind, yields_get]
  split <;> exact Iff.rfl

/-- A pass over a job records what the job, its pods and its retries say. -/
theorem yields_reconcileJob {stored : Job} (hstored : c.store.jobs.get? job.address = some stored) :
    Yields (reconcileJob now job) c
      (fun outcome c' =>
        (outcome = .backoff → job.Restarts now (job.podsIn c.store) (c.retries.count job.key)) ∧
        Resolved job.address (job.resolved now (job.podsIn c.store) (c.retries.count job.key)) c c')
      fun _ c' => SameRecords c c' := by
  rw [yields_reconcileJob_iff]
  unfold Job.resolved Job.Restarts
  simp only
  split
  · exact (yields_terminate hstored).mono (fun _ _ h => ⟨fun ho => absurd ho h.1, h.2⟩) fun _ _ h => h
  · next hgoing =>
    rw [Bool.not_eq_true, Bool.or_eq_false_iff, Option.isSome_eq_false_iff, Option.isNone_iff_eq_none] at hgoing
    exact (yields_advance hstored).mono (fun _ _ h => ⟨fun ho => ⟨hgoing.1, hgoing.2, h.1 ho⟩, h.2⟩)
      fun _ _ h => h

/-- What a pass does for a job whose spec is acceptable. -/
def attend (now : Timestamp) (job : Job) : ControllerM MemoryStore Outcome := do
  if job.isLeaving then return .done
  match (← get).expectations.firstPending job.expectationKeys now with
  | some wait => return .requeue wait
  | none =>
    if (← get).config.gang && !job.currentStatus.isFinished then
      let _ ← attempt (ensurePodGroup job)
    reconcileJob now job

/-- The controller when it looks at the pods of a job. If they are placed together, it has asked for a pod group. -/
def prepared (job : Job) (c : Controller MemoryStore) : Controller MemoryStore :=
  if c.config.gang && !job.currentStatus.isFinished then ((ensurePodGroup job).run c).2 else c

theorem sameSurroundings_prepared (job : Job) (c : Controller MemoryStore) : SameSurroundings c (prepared job c) := by
  unfold prepared
  split
  · exact (sameSurroundings_ensurePodGroup job).run c
  · exact .refl c

section Attend

variable {done : Outcome → Controller MemoryStore → Prop} {failed : OperatorError → Controller MemoryStore → Prop}

/-- A pass over a job that is held up does nothing. -/
theorem yields_attend_of_heldUp (hheld : job.HeldUp now c) (h : ∀ outcome, outcome ≠ .backoff → done outcome c) :
    Yields (attend now job) c done failed := by
  unfold attend
  by_cases hleaving : job.isLeaving
  · rw [if_pos hleaving]
    exact h .done Outcome.noConfusion
  · have hpending := hheld.resolve_left hleaving
    rw [expectationsSatisfied, Option.isNone_eq_false_iff, Option.isSome_iff_exists] at hpending
    obtain ⟨wait, hwait⟩ := hpending
    rw [if_neg hleaving, yields_bind, yields_get, hwait]
    exact h (.requeue wait) Outcome.noConfusion

/-- A pass over a job that is not held up is a look at its pods, from where it is prepared. -/
theorem yields_attend_iff_of_free (hfree : ¬ job.HeldUp now c) :
    Yields (attend now job) c done failed ↔ Yields (reconcileJob now job) (prepared job c) done failed := by
  unfold Job.HeldUp expectationsSatisfied at hfree
  rw [not_or, Bool.not_eq_false, Option.isNone_iff_eq_none] at hfree
  unfold attend prepared
  rw [if_neg hfree.1, yields_bind, yields_get, hfree.2]
  simp only
  rw [yields_bind, yields_get]
  -- Under gang scheduling the group is attempted first; its error, if any, is dropped.
  split
  · rw [yields_bind, yields_attempt]
    unfold Yields
    rcases (ensurePodGroup job).run c with ⟨_ | _, _⟩ <;> exact Iff.rfl
  · exact Iff.rfl

/-- A pass over a job that is not held up is a look at its pods. A pod group may be made or refused before;
either way the look finds what was there before. -/
theorem yields_attend_of_free (hfree : ¬ job.HeldUp now c)
    (hlook : ∀ c₁, SameSurroundings c c₁ → Yields (reconcileJob now job) c₁ done failed) :
    Yields (attend now job) c done failed := by
  rw [yields_attend_iff_of_free hfree]
  exact hlook _ (sameSurroundings_prepared job c)

end Attend

/-- In the same surroundings a job has the same pods. -/
theorem SameSurroundings.podsIn_eq {c₁ : Controller MemoryStore} (h : SameSurroundings c c₁) (job : Job) :
    job.podsIn c₁.store = job.podsIn c.store := by
  unfold Job.podsIn
  rw [h.pods]

/-- In the same surroundings a job has the same services. -/
theorem SameSurroundings.servicesIn_eq {c₁ : Controller MemoryStore} (h : SameSurroundings c c₁) (job : Job) :
    job.servicesIn c₁.store = job.servicesIn c.store := by
  unfold Job.servicesIn
  rw [h.services]

/-- A pass that is held up records nothing; any other is a pass over the job. -/
theorem yields_attend {stored : Job} (hstored : c.store.jobs.get? job.address = some stored) :
    Yields (attend now job) c
      (fun outcome c' =>
        (outcome = .backoff → ¬ job.HeldUp now c ∧
          job.Restarts now (job.podsIn c.store) (c.retries.count job.key)) ∧
        Resolved job.address (if job.HeldUp now c then .kept
          else job.resolved now (job.podsIn c.store) (c.retries.count job.key)) c c')
      fun _ c' => SameRecords c c' := by
  by_cases hheld : job.HeldUp now c
  · simp only [if_pos hheld]
    exact yields_attend_of_heldUp hheld fun outcome houtcome =>
      ⟨fun hbackoff => absurd hbackoff houtcome, (SameRecords.refl c).resolved⟩
  · simp only [if_neg hheld]
    refine yields_attend_of_free hheld fun c₁ h₁ => ?_
    -- The look is taken after a pod group may have been made, at the same pods and retries.
    refine (yields_reconcileJob (h₁.stored hstored)).mono (fun _ _ h => ?_)
      fun _ _ h => h₁.toSameRecords.trans h
    rw [h₁.podsIn_eq, h₁.retries] at h
    exact ⟨fun ho => ⟨hheld, h.1 ho⟩, h₁.toSameRecords.trans_resolved h.2⟩

/-- A job goes by the key under which it is found. -/
theorem key_eq_of_splitKey? {key : String} {a : Address} {stored : Job}
    (hkey : splitKey? key = some (a.ns, a.name)) (ha : stored.address = a) : stored.key = key := by
  subst ha
  exact keyFor_of_splitKey? hkey

/-- What a pass does once the job is looked for: it forgets a job that is not there, rejects one whose spec is not
acceptable, and attends to any other. -/
theorem yields_sync_of_read {key : String} {a : Address} {done : Outcome → Controller MemoryStore → Prop}
    {failed : OperatorError → Controller MemoryStore → Prop} (hkey : splitKey? key = some (a.ns, a.name))
    (hunread : ∀ e rest, takeFailure? .getJob c.store.failures = some (e, rest) →
      failed e { c with store := { c.store with failures := rest } })
    (hforget : c.store.jobs.get? a = none → done .done (expected (fun x => x.deleteJob key) c))
    (hreject : ∀ stored fault, c.store.jobs.get? a = some stored → stored.withDefaults.spec.fault? = some fault →
      Yields (reject now stored.withDefaults fault) c (fun _ => done .done) failed)
    (hattend : ∀ stored, c.store.jobs.get? a = some stored → stored.withDefaults.spec.fault? = none →
      Yields (attend now stored.withDefaults) c done failed) : Yields (sync now key) c done failed := by
  unfold sync splitKey
  rw [hkey, yields_bind, yields_settle]
  simp only
  rw [yields_bind, yields_request, run_getJob]
  -- The read fails, finds nothing, finds a faulty job, or finds one to attend to.
  rcases hfailure : takeFailure? .getJob c.store.failures with _ | ⟨e, rest⟩
  · simp only
    rcases hstored : c.store.jobs.get? a with _ | stored
    · exact hforget hstored
    · simp only
      rcases hspec : stored.withDefaults.spec.fault? with _ | fault
      · exact hattend stored hstored hspec
      · simp only
        rw [yields_bind]
        exact hreject stored fault hstored hspec
  · exact hunread e rest hfailure

/-- A pass over a stored job whose spec is acceptable is what it does for that job, unless the job cannot be
read. -/
theorem yields_sync_of_acceptable {key : String} {a : Address} {stored : Job}
    {done : Outcome → Controller MemoryStore → Prop} {failed : OperatorError → Controller MemoryStore → Prop}
    (hkey : splitKey? key = some (a.ns, a.name)) (hstored : c.store.jobs.get? a = some stored)
    (hvalid : stored.withDefaults.spec.fault? = none)
    (hunread : ∀ e rest, takeFailure? .getJob c.store.failures = some (e, rest) →
      failed e { c with store := { c.store with failures := rest } })
    (h : Yields (attend now stored.withDefaults) c done failed) : Yields (sync now key) c done failed := by
  refine yields_sync_of_read hkey hunread (fun habsent => ?_) (fun found fault hfound hfault => ?_)
    fun found hfound _ => ?_
  · exact absurd (habsent.symm.trans hstored) (by simp)
  · cases hfound.symm.trans hstored
    exact absurd (hvalid.symm.trans hfault) (by simp)
  · cases hfound.symm.trans hstored
    exact h

/-- A pass over a stored job whose spec is not acceptable rejects it, unless the job cannot be read. -/
theorem yields_sync_of_fault {key : String} {a : Address} {stored : Job} {fault : SpecFault}
    {done : Outcome → Controller MemoryStore → Prop} {failed : OperatorError → Controller MemoryStore → Prop}
    (hkey : splitKey? key = some (a.ns, a.name)) (hstored : c.store.jobs.get? a = some stored)
    (hfault : stored.withDefaults.spec.fault? = some fault)
    (hunread : ∀ e rest, takeFailure? .getJob c.store.failures = some (e, rest) →
      failed e { c with store := { c.store with failures := rest } })
    (h : Yields (reject now stored.withDefaults fault) c (fun _ => done .done) failed) :
    Yields (sync now key) c done failed := by
  refine yields_sync_of_read hkey hunread (fun habsent => ?_) (fun found other hfound hother => ?_)
    fun found hfound hvalid => ?_
  · exact absurd (habsent.symm.trans hstored) (by simp)
  · cases hfound.symm.trans hstored
    cases hother.symm.trans hfault
    exact h
  · cases hfound.symm.trans hstored
    exact absurd (hvalid.symm.trans hfault) (by simp)

/-- The ways of a pass over an acceptable job: the job is held up, or it is brought to its end, or it is brought
in line. In the last two a pod group may have been made, and nothing else has happened before. -/
theorem yields_sync_of_ways {key : String} {a : Address} {stored : Job}
    {done : Outcome → Controller MemoryStore → Prop} {failed : OperatorError → Controller MemoryStore → Prop}
    (hkey : splitKey? key = some (a.ns, a.name)) (hstored : c.store.jobs.get? a = some stored)
    (hvalid : stored.withDefaults.spec.fault? = none)
    (hunread : ∀ e rest, takeFailure? .getJob c.store.failures = some (e, rest) →
      failed e { c with store := { c.store with failures := rest } })
    (hheld : stored.withDefaults.HeldUp now c → ∀ outcome, outcome ≠ .backoff → done outcome c)
    (hend : ∀ c₁ failure, SameSurroundings c c₁ →
      stored.withDefaults.exceeded? (stored.withDefaults.podsIn c.store)
        (c.retries.count stored.withDefaults.key) (stored.withDefaults.takenIn now) now = failure →
      (stored.withDefaults.takenIn now).isFinished = true ∨ failure.isSome = true →
      Yields (terminate now stored.withDefaults (stored.withDefaults.podsIn c.store)
        (stored.withDefaults.takenIn now) failure) c₁ done failed)
    (hgoing : ∀ c₁, SameSurroundings c c₁ → ¬ stored.withDefaults.HeldUp now c →
      (stored.withDefaults.takenIn now).isFinished = false →
      stored.withDefaults.exceeded? (stored.withDefaults.podsIn c.store)
        (c.retries.count stored.withDefaults.key) (stored.withDefaults.takenIn now) now = none →
      Yields (advance now stored.withDefaults (stored.withDefaults.podsIn c.store)
        (stored.withDefaults.servicesIn c.store) (stored.withDefaults.takenIn now)) c₁ done failed) :
    Yields (sync now key) c done failed := by
  refine yields_sync_of_acceptable hkey hstored hvalid hunread ?_
  -- Held up or free; when free, over a limit or finished, or on its way.
  by_cases hheldUp : stored.withDefaults.HeldUp now c
  · exact yields_attend_of_heldUp hheldUp (hheld hheldUp)
  · refine yields_attend_of_free hheldUp fun c₁ h₁ => ?_
    rw [yields_reconcileJob_iff, h₁.podsIn_eq, h₁.servicesIn_eq, h₁.retries]
    simp only
    split
    · next hended => exact hend c₁ _ h₁ rfl (Bool.or_eq_true_iff.1 hended)
    · next hopen =>
      rw [Bool.not_eq_true, Bool.or_eq_false_iff, Option.isSome_eq_false_iff, Option.isNone_iff_eq_none] at hopen
      exact hgoing c₁ h₁ hheldUp hopen.1 hopen.2

/-- A pass that attends to an open job within its limits brings it in line. A pod group may have been made before. -/
theorem yields_sync_of_within_limits {key : String} {a : Address} {stored : Job}
    {done : Outcome → Controller MemoryStore → Prop} {failed : OperatorError → Controller MemoryStore → Prop}
    (hkey : splitKey? key = some (a.ns, a.name)) (hstored : c.store.jobs.get? a = some stored)
    (hvalid : stored.withDefaults.spec.fault? = none) (hfree : ¬ stored.withDefaults.HeldUp now c)
    (hopen : (stored.withDefaults.takenIn now).isFinished = false)
    (hlimit : stored.withDefaults.exceeded? (stored.withDefaults.podsIn c.store)
      (c.retries.count stored.withDefaults.key) (stored.withDefaults.takenIn now) now = none)
    (hunread : ∀ e rest, takeFailure? .getJob c.store.failures = some (e, rest) →
      failed e { c with store := { c.store with failures := rest } })
    (h : ∀ c₁, SameSurroundings c c₁ →
      Yields (advance now stored.withDefaults (stored.withDefaults.podsIn c.store)
        (stored.withDefaults.servicesIn c.store) (stored.withDefaults.takenIn now)) c₁ done failed) :
    Yields (sync now key) c done failed := by
  refine yields_sync_of_ways hkey hstored hvalid hunread (fun hheld => absurd hheld hfree)
    (fun c₁ failure _ hfailure hended => ?_) fun c₁ h₁ _ _ _ => h c₁ h₁
  rw [← hfailure, hlimit, hopen] at hended
  exact absurd hended (by decide)

/-- A pass over a stored job makes of its record what the outlook says, and one that fails leaves all records
as they were. A pass that is to be repeated as a retry has had pods replaced. -/
theorem yields_sync {key : String} {a : Address} {stored : Job} (now : Timestamp)
    (hkey : splitKey? key = some (a.ns, a.name)) (hstored : c.store.jobs.get? a = some stored)
    (ha : stored.address = a) :
    Yields (sync now key) c
      (fun outcome c' => (outcome = .backoff → stored.BacksOff now c) ∧ Resolved a (stored.outlook now c) c c')
      fun _ c' => SameRecords c c' := by
  subst ha
  have hjob : c.store.jobs.get? stored.withDefaults.address = some stored := hstored
  unfold Job.outlook Job.BacksOff
  simp only
  -- Both ways write at most the record at the job's own address.
  rcases hfault : stored.withDefaults.spec.fault? with _ | fault
  · refine yields_sync_of_acceptable hkey hstored hfault (fun e rest hfailure => ?_) ?_
    · exact ⟨rfl, rfl, takeFailure?_sublist hfailure, rfl, rfl⟩
    · exact (yields_attend hjob).mono (fun _ _ h => ⟨fun ho => ⟨rfl, h.1 ho⟩, h.2⟩) fun _ _ h => h
  · refine yields_sync_of_fault hkey hstored hfault (fun e rest hfailure => ?_) ?_
    · exact ⟨rfl, rfl, takeFailure?_sublist hfailure, rfl, rfl⟩
    · exact (yields_reject hjob).mono (fun _ _ h => ⟨Outcome.noConfusion, h⟩) fun _ _ h => h

/-- What a pass makes of the record of an acceptable job is decided by a look at its pods, unless it is held up. -/
theorem outlook_of_acceptable {stored : Job} (hvalid : stored.withDefaults.spec.fault? = none) (now : Timestamp)
    (c : Controller MemoryStore) : stored.outlook now c =
      if stored.withDefaults.HeldUp now c then .kept
      else stored.withDefaults.resolved now (stored.withDefaults.podsIn c.store)
        (c.retries.count stored.withDefaults.key) := by
  unfold Job.outlook
  simp only
  rw [hvalid]

/-- A job that is still there after a pass that attended to it has the status that the look at its pods has led to. -/
theorem status_of_attended {key : String} {a : Address} {stored left : Job} {outcome : Outcome}
    {c' : Controller MemoryStore} (hkey : splitKey? key = some (a.ns, a.name))
    (hstored : c.store.jobs.get? a = some stored) (haddress : stored.address = a)
    (hvalid : stored.withDefaults.spec.fault? = none) (hfree : ¬ stored.withDefaults.HeldUp now c)
    (hrun : (sync now key).run c = (.ok outcome, c')) (hleft : c'.store.jobs.get? a = some left) :
    left.currentStatus = (stored.withDefaults.resolved now (stored.withDefaults.podsIn c.store)
        (c.retries.count key)).statusAfter stored.currentStatus ∧ SameJob stored left := by
  obtain ⟨hstatus, hsame⟩ := ((yields_sync now hkey hstored haddress).ok hrun).2.left_of_stored hstored hleft
  rw [outlook_of_acceptable hvalid, if_neg hfree,
    show stored.withDefaults.key = key from key_eq_of_splitKey? hkey haddress] at hstatus
  exact ⟨hstatus, hsame⟩

/-- A pass over a job that is not stored forgets what was expected of it, unless looking for it fails. -/
theorem yields_sync_of_absent {key : String} {a : Address}
    {done : Outcome → Controller MemoryStore → Prop} {failed : OperatorError → Controller MemoryStore → Prop}
    (hkey : splitKey? key = some (a.ns, a.name)) (habsent : c.store.jobs.get? a = none)
    (hunread : ∀ e rest, takeFailure? .getJob c.store.failures = some (e, rest) →
      failed e { c with store := { c.store with failures := rest } })
    (h : done .done (expected (fun x => x.deleteJob key) c)) : Yields (sync now key) c done failed := by
  have hnot : ∀ stored, c.store.jobs.get? a ≠ some stored := by simp [habsent]
  exact yields_sync_of_read hkey hunread (fun _ => h) (fun stored _ hstored => absurd hstored (hnot stored))
    fun stored hstored => absurd hstored (hnot stored)

/-- Where there is no job under the key a pass records nothing. -/
theorem sameRecords_sync_of_absent {key : String} {a : Address} (now : Timestamp)
    (hkey : splitKey? key = some (a.ns, a.name)) (habsent : c.store.jobs.get? a = none) :
    SameRecords c ((sync now key).run c).2 := by
  have h : Yields (sync now key) c (fun _ c' => SameRecords c c') fun _ c' => SameRecords c c' :=
    yields_sync_of_absent hkey habsent (fun _ _ hfailure => ⟨rfl, rfl, takeFailure?_sublist hfailure, rfl, rfl⟩)
      (sameRecords_expected _ c)
  exact h.run

/-- **What a pass leaves of a job is that job**, with the status it had, where the pass fails, and with the one that the
outlook gives it, where it ends well. A job that is gone does not come back. -/
theorem exists_stored_of_sync {key : String} {a : Address} {left : Job} (now : Timestamp)
    (hkey : splitKey? key = some (a.ns, a.name))
    (haddress : ∀ stored, c.store.jobs.get? a = some stored → stored.address = a)
    (hleft : ((sync now key).run c).2.store.jobs.get? a = some left) :
    ∃ stored, c.store.jobs.get? a = some stored ∧ SameJob stored left ∧
      ((∃ e, ((sync now key).run c).1 = .error e) ∧ left.currentStatus = stored.currentStatus ∨
        (∃ outcome, ((sync now key).run c).1 = .ok outcome) ∧
          left.currentStatus = (stored.outlook now c).statusAfter stored.currentStatus) := by
  rcases hstored : c.store.jobs.get? a with _ | stored
  · rw [(sameRecords_sync_of_absent now hkey hstored).jobs, hstored] at hleft
    exact absurd hleft (by simp)
  · have hpass := yields_sync now hkey hstored (haddress stored hstored)
    rcases hrun : (sync now key).run c with ⟨e | outcome, c'⟩
    · rw [hrun, (hpass.error hrun).jobs, hstored] at hleft
      exact ⟨left, hleft, .refl left, .inl ⟨⟨e, rfl⟩, rfl⟩⟩
    · rw [hrun] at hleft
      obtain ⟨hstatus, hsame⟩ := (hpass.ok hrun).2.left_of_stored hstored hleft
      exact ⟨stored, rfl, hsame, .inr ⟨⟨outcome, rfl⟩, hstatus⟩⟩

end Controller

/-! ## A job to try statements on -/

def sampleContainer : Container where
  name := Job.containerName
  image := some "train:1"
  env := none
  ports := none

/-- A replica type of `count` replicas that run one container. -/
def sampleType (count : Int32) (restart : RestartPolicy) : ReplicaSpec where
  replicas := some count
  template := { spec := some { containers := [sampleContainer] } }
  restartPolicy := some restart

def sampleJob (runPolicy : RunPolicy) (types : List (String × ReplicaSpec)) (status : Option JobStatus) :
    Job where
  metadata := { name := some "iris", ns := some "default" }
  spec := { runPolicy := runPolicy, replicaSpecs := .ofList types }
  status := status

def sampleReport (exitCode : Option Int) : ContainerStatus where
  name := Job.containerName
  restartCount := 0
  image := ""
  imageId := ""
  ready := false
  state := some exitCode

/-- A pod in a slot of the sample job, with the exit code of its container if that has ended. -/
def samplePod (replicaType : String) (index : Nat) (phase : String) (exitCode : Option Int) : Pod where
  metadata := {
    name := some (slotName "iris" replicaType index)
    ns := some "default"
    labels := some (Labels.ofSlot Job.group "iris" replicaType index) }
  status := some {
    phase := some phase
    containerStatuses := some [sampleReport exitCode] }

def sampleService (replicaType : String) (index : Nat) : Service where
  metadata := {
    name := some (slotName "iris" replicaType index)
    ns := some "default"
    labels := some (Labels.ofSlot Job.group "iris" replicaType index) }
  spec := none

def sampleAddress : Address := ⟨"default", "iris"⟩

def sampleKey : String := "default/iris"

/-- It is the key of the job at the address. -/
theorem splitKey?_sampleKey : splitKey? sampleKey = some (sampleAddress.ns, sampleAddress.name) := by decide +kernel

/-- A controller that has done nothing yet, on a store that holds nothing but the job. -/
def sampleStart (job : Job) : Controller MemoryStore :=
  .new {} (MemoryStore.insertJob { clock := ⟨0⟩ } job)

/-- The same with these pods in the store. -/
def sampleStartWith (job : Job) (pods : List Pod) : Controller MemoryStore :=
  { sampleStart job with store := pods.foldl MemoryStore.insertPod (sampleStart job).store }

def sampleTime (seconds : Nat) : Timestamp := Timestamp.addSeconds ⟨0⟩ seconds

end TrainingJobs
