/-
What judging makes of a job, condition by condition.

An acceptable job is judged in a fixed order: whether the master runs and whether it is done, what the failures of the
master mean, and last those of the workers (`exists_judge_of_acceptable`). So of a job that has not failed it can be
told from the counts what comes out, whatever its conditions were (`restart_or_fail`): it fails by a failed pod that
is not replaced, else it is restarting if a pod is replaced, it is done once the master is, and each verdict has its
time.
-/
import TrainingJobs.Proofs.Acceptable
import TrainingJobs.Proofs.Completion
import TrainingJobs.Proofs.RestartBudget

set_option autoImplicit false

namespace TrainingJobs

open Controller

namespace Job

variable {job : Job} {now : Timestamp} {s : JobStatus}

/-! ## What the counts amount to -/

/-- All masters are counted as succeeded. -/
def DoneBy (job : Job) (s : JobStatus) : Prop :=
  ∃ m ∈ job.spec.replicaSpecs.get? masterType, (s.countsOf masterType).succeeded = m.count

instance (job : Job) (s : JobStatus) : Decidable (job.DoneBy s) := inferInstanceAs (Decidable (∃ m ∈ _, _))

/-- A pod is counted as failed whose type is not replaced by exit code. -/
def BrokenBy (job : Job) (s : JobStatus) : Prop :=
  ∃ e ∈ job.spec.replicaSpecs.entries, e.2.restart ≠ .exitCode ∧ 0 < (s.countsOf e.1).failed

instance (job : Job) (s : JobStatus) : Decidable (job.BrokenBy s) := inferInstanceAs (Decidable (∃ e ∈ _, _))

/-- A pod is counted as failed whose type is replaced by exit code. -/
def ReplacedBy (job : Job) (s : JobStatus) : Prop :=
  ∃ e ∈ job.spec.replicaSpecs.entries, e.2.restart = .exitCode ∧ 0 < (s.countsOf e.1).failed

instance (job : Job) (s : JobStatus) : Decidable (job.ReplacedBy s) := inferInstanceAs (Decidable (∃ e ∈ _, _))

/-! ## The masters -/

section Master

variable (job) (desired : Int32) (counts : ReplicaCounts) (now)

/-- The masters make a job that has not failed succeed exactly if all of them have. -/
theorem isSucceeded_judgeMaster (hs : s.isFailed = false) : (job.judgeMaster desired counts now s).1.isSucceeded =
    (s.isSucceeded || decide (desired - counts.succeeded = 0)) := by
  obtain ⟨s', hrunning, hdone⟩ := judgeMaster_cases job desired counts now s
  -- Whether `Running` was noted first changes neither verdict.
  have hs' : s'.isSucceeded = s.isSucceeded ∧ s'.isFailed = false := by
    rcases hrunning with ⟨-, rfl⟩ | ⟨-, rfl⟩
    · rw [JobStatus.isSucceeded_note, JobStatus.isFailed_note, hs]
      exact ⟨Bool.or_false _, rfl⟩
    · exact ⟨rfl, hs⟩
  rcases hdone with ⟨hundone, h⟩ | ⟨hdone, message, h⟩
  · rw [h, decide_eq_false hundone, Bool.or_false]
    exact hs'.1
  · have hfailed : (s'.complete now).isFailed = false := hs'.2
    rw [h, JobStatus.isSucceeded_note, hfailed, decide_eq_true hdone, Bool.or_true]
    exact Bool.or_true _

/-- A master that is done stamps the job, unless it was stamped before. -/
theorem completionTime_judgeMaster (s : JobStatus) : (job.judgeMaster desired counts now s).1.completionTime =
    if desired - counts.succeeded = 0 then some (s.completionTime.getD now) else s.completionTime := by
  obtain ⟨s', hrunning, hdone⟩ := judgeMaster_cases job desired counts now s
  have hs' : s'.completionTime = s.completionTime := by
    rcases hrunning with ⟨-, rfl⟩ | ⟨-, rfl⟩
    · exact JobStatus.completionTime_note _ _ _ _ _
    · rfl
  rcases hdone with ⟨hundone, h⟩ | ⟨hdone, message, h⟩
  · rw [h, if_neg hundone, hs']
  · rw [h, if_pos hdone, JobStatus.completionTime_note, ← hs']
    rfl

/-- Masters that are done and of which none is running end what the job was doing, but not that it was restarting. -/
theorem holds_judgeMaster_of_done (hopen : s.isFinished = false) (hdone : desired - counts.succeeded = 0)
    (hidle : counts.active ≤ 0) : (job.judgeMaster desired counts now s).1.holds .running = false ∧
      (job.judgeMaster desired counts now s).1.holds .restarting = s.holds .restarting := by
  obtain ⟨hsucceeded, hfailed⟩ := Bool.or_eq_false_iff.1 hopen
  -- Only the branch that leaves `Running` alone and notes `Succeeded` is open to a master that is done.
  obtain ⟨s', ⟨hactive, -⟩ | ⟨-, rfl⟩, ⟨hundone, -⟩ | ⟨-, message, h⟩⟩ := judgeMaster_cases job desired counts now s
  · exact absurd hidle (Int32.not_le.2 hactive)
  · exact absurd hidle (Int32.not_le.2 hactive)
  · exact absurd hdone hundone
  · rw [h]
    have hfresh : ¬ (s'.complete now).Stands .succeeded Reason.jobSucceeded := fun hstands =>
      Bool.false_ne_true (hsucceeded.symm.trans hstands.holds)
    refine ⟨?_, JobStatus.holds_note_of_not_endedBy (by decide)⟩
    rw [← Bool.not_eq_true, JobStatus.holds_note_iff_of_fresh (s := s'.complete now) hfailed hfresh]
    rintro (hkind | ⟨-, hstays⟩)
    · exact ConditionKind.noConfusion hkind
    · exact hstays (by decide)

end Master

/-! ## The failures of a type -/

section Failures

variable (job) (replicaType : String) (restart : RestartPolicy) (failed : Int32) (now)

/-- What failed pods mean for a job is never that it is done. -/
theorem isSucceeded_judgeFailures (s : JobStatus) :
    (job.judgeFailures replicaType restart failed now s).1.isSucceeded = s.isSucceeded := by
  obtain ⟨-, h⟩ | ⟨-, message, h⟩ | ⟨-, message, h⟩ := judgeFailures_cases job replicaType restart failed now s
  · rw [h]
  · rw [h]
    exact JobStatus.holds_note_of_ne (by decide) (by decide) (by decide)
  · rw [h]
    exact JobStatus.holds_note_of_ne (by decide) (by decide) (by decide)

/-- A failure that no restart can mend stamps the job, unless it was stamped before. -/
theorem completionTime_judgeFailures (s : JobStatus) :
    (job.judgeFailures replicaType restart failed now s).1.completionTime =
      if restart ≠ .exitCode ∧ 0 < failed then some (s.completionTime.getD now) else s.completionTime := by
  obtain ⟨hnone, h⟩ | ⟨⟨-, hrestart⟩, message, h⟩ | ⟨⟨hsome, hrestart⟩, message, h⟩ :=
    judgeFailures_cases job replicaType restart failed now s
  · rw [h, if_neg fun hbroken => Int32.not_lt.2 hnone hbroken.2]
  · rw [h, if_neg fun hbroken => hbroken.1 hrestart, JobStatus.completionTime_note]
  · rw [h, if_pos ⟨hrestart, hsome⟩, JobStatus.completionTime_note]
    rfl

/-- Failures never make a job run. -/
theorem holds_of_holds_judgeFailures
    (h : (job.judgeFailures replicaType restart failed now s).1.holds .running = true) : s.holds .running = true := by
  obtain ⟨-, hs⟩ | ⟨-, message, hs⟩ | ⟨-, message, hs⟩ := judgeFailures_cases job replicaType restart failed now s
  · rw [hs] at h
    exact h
  · rw [hs] at h
    exact JobStatus.holds_of_holds_note (by decide) h
  · rw [hs] at h
    exact JobStatus.holds_of_holds_note (s := s.complete now) (by decide) h

/-- Failures make a job that has not failed restarting exactly if they are replaced, and leave it so if it was. -/
theorem holds_restarting_judgeFailures (hs : s.isFailed = false) :
    (job.judgeFailures replicaType restart failed now s).1.holds .restarting = true ↔
      s.holds .restarting = true ∨ restart = .exitCode ∧ 0 < failed := by
  obtain ⟨hnone, h⟩ | ⟨⟨hsome, hrestart⟩, message, h⟩ | ⟨⟨-, hrestart⟩, message, h⟩ :=
    judgeFailures_cases job replicaType restart failed now s
  · rw [h, or_iff_left fun hreplaced => Int32.not_lt.2 hnone hreplaced.2]
  · rw [h, JobStatus.holds_note_self hs]
    exact iff_of_true rfl (.inr ⟨hrestart, hsome⟩)
  · rw [h, JobStatus.holds_note_of_not_endedBy (by decide), or_iff_left fun hreplaced => hrestart hreplaced.1]
    rfl

end Failures

/-! ## An acceptable job -/

/-- Judging that does not stop short is judging, and telling of it. -/
theorem run_judge {σ : Type} [ObjectStore σ] (h : (job.judge now s).error = none) (c : Controller σ) :
    ((Controller.judge now job s).run c).1 = .ok (job.judge now s).status := by
  unfold Controller.judge
  simp only [h]
  rfl

/-- Masters are judged by what they have done, and then by their failures. -/
theorem judgeType_master (job : Job) (m : ReplicaSpec) (desired : Int32) (now : Timestamp) (s : JobStatus) :
    (job.judgeType masterType m desired now s).1 =
      (job.judgeFailures masterType m.restart (s.countsOf masterType).failed now
        (job.judgeMaster desired (s.countsOf masterType) now s).1).1 := by
  unfold judgeType
  simp only
  rw [if_pos (by decide)]

/-- Workers are judged by their failures alone. -/
theorem judgeType_worker (job : Job) (w : ReplicaSpec) (desired : Int32) (now : Timestamp) (s : JobStatus) :
    (job.judgeType workerType w desired now s).1 =
      (job.judgeFailures workerType w.restart (s.countsOf workerType).failed now s).1 := by
  unfold judgeType
  simp only
  rw [if_neg (by decide)]

/-- An acceptable job is judged by its master, then by the failures of the master, and then by those of the workers,
which are none where there are no workers. -/
theorem exists_judge_of_acceptable (hfilled : Filled job.spec.replicaSpecs.entries) (hvalid : job.spec.fault? = none)
    (now : Timestamp) (s : JobStatus) : ∃ m restart failed,
      (masterType, m) ∈ job.spec.replicaSpecs.entries ∧ m.count = 1 ∧
      (job.judge now s).status = (job.judgeFailures workerType restart failed now
        (job.judgeFailures masterType m.restart (s.countsOf masterType).failed now
          (job.judgeMaster m.count (s.countsOf masterType) now s).1).1).1 ∧
      ∀ q : RestartPolicy → Prop,
        (∃ e ∈ job.spec.replicaSpecs.entries, q e.2.restart ∧ 0 < (s.countsOf e.1).failed) ↔
          q m.restart ∧ 0 < (s.countsOf masterType).failed ∨ q restart ∧ 0 < failed := by
  have hcount : ∀ m, (masterType, m) ∈ job.spec.replicaSpecs.entries → m.count = 1 := fun m hm =>
    JobSpec.count_master hvalid hm
  unfold judge
  obtain ⟨m, hentries⟩ | ⟨m, w, hentries⟩ := JobSpec.entries_of_acceptable hvalid
  · rw [hentries] at hfilled hcount ⊢
    refine ⟨m, .never, 0, List.mem_cons_self, hcount m List.mem_cons_self, ?_, ?_⟩
    · rw [status_judgeTypes_cons hfilled, judgeType_master]
      -- Without workers nothing has failed of them, and that changes nothing.
      rfl
    · intro q
      simp
  · rw [hentries] at hfilled hcount ⊢
    refine ⟨m, w.restart, (s.countsOf workerType).failed, List.mem_cons_self, hcount m List.mem_cons_self, ?_, ?_⟩
    · rw [status_judgeTypes_cons hfilled, status_judgeTypes_cons fun e he => hfilled e (List.mem_cons_of_mem _ he),
        judgeType_worker, countsOf_judgeType, judgeType_master]
      rfl
    · intro q
      simp

/-- In a job with a master, it is the master whose counts say that the job is done. -/
theorem doneBy_iff {m : ReplicaSpec} (hm : (masterType, m) ∈ job.spec.replicaSpecs.entries) :
    job.DoneBy s ↔ m.count - (s.countsOf masterType).succeeded = 0 := by
  unfold DoneBy
  rw [Dict.get?_eq_some_iff.2 hm]
  constructor
  · rintro ⟨_, hsame, hdone⟩
    cases hsame
    exact int32_sub_eq_zero.2 hdone.symm
  · intro hdone
    exact ⟨m, rfl, (int32_sub_eq_zero.1 hdone).symm⟩

/-- A time that is noted twice is noted once. -/
theorem getD_getD (p q : Prop) [Decidable p] [Decidable q] (t : Option Timestamp) :
    (if q then some ((if p then some (t.getD now) else t).getD now) else if p then some (t.getD now) else t) =
      if p ∨ q then some (t.getD now) else t := by
  by_cases hp : p <;> by_cases hq : q <;> simp [hp, hq]

section Acceptable

variable (hfilled : Filled job.spec.replicaSpecs.entries) (hvalid : job.spec.fault? = none) (now)

include hfilled

/-- **When counts fail a job**: just when one of its types is broken for good. -/
theorem isFailed_judge_iff (hs : s.isFailed = false) :
    (job.judge now s).status.isFailed = true ↔ job.BrokenBy s := by
  unfold judge BrokenBy
  rw [isFailed_judgeTypes hfilled, hs, Bool.false_or, List.any_eq_true]
  refine exists_congr fun e => and_congr_right fun _ => ?_
  rw [Bool.and_eq_true_iff, decide_eq_true_iff, decide_eq_true_iff]

include hvalid

/-- **When counts make a job a success**: when it was one before, or its master is done. -/
theorem isSucceeded_judge_iff (hs : s.isFailed = false) :
    (job.judge now s).status.isSucceeded = true ↔ s.isSucceeded = true ∨ job.DoneBy s := by
  obtain ⟨m, restart, failed, hm, -, hjudged, -⟩ := exists_judge_of_acceptable hfilled hvalid now s
  rw [hjudged, isSucceeded_judgeFailures, isSucceeded_judgeFailures, isSucceeded_judgeMaster _ _ _ _ hs,
    Bool.or_eq_true, decide_eq_true_iff, doneBy_iff hm]

/-- A job that judging does not fail is restarting after it if one of its pods is replaced. -/
theorem holds_restarting_judge (hfailed : (job.judge now s).status.isFailed = false) (h : job.ReplacedBy s) :
    (job.judge now s).status.holds .restarting = true := by
  obtain ⟨m, restart, failed, -, -, hjudged, hsome⟩ := exists_judge_of_acceptable hfilled hvalid now s
  -- What did not fail in the end had not failed in between.
  rw [hjudged, isFailed_judgeFailures, Bool.or_eq_false_iff] at hfailed
  have hmaster := hfailed.1
  rw [isFailed_judgeFailures, Bool.or_eq_false_iff] at hmaster
  rw [hjudged, holds_restarting_judgeFailures _ _ _ _ _ hfailed.1, holds_restarting_judgeFailures _ _ _ _ _ hmaster.1]
  rcases (hsome (· = .exitCode)).1 h with hm | hw
  · exact .inl (.inr hm)
  · exact .inr hw

/-- The time of the verdict is noted with either of the two, unless it is known. -/
theorem completionTime_judge (s : JobStatus) :
    (job.DoneBy s ∨ job.BrokenBy s) ∧
        (job.judge now s).status.completionTime = some (s.completionTime.getD now) ∨
      ¬ (job.DoneBy s ∨ job.BrokenBy s) ∧ (job.judge now s).status.completionTime = s.completionTime := by
  obtain ⟨m, restart, failed, hm, -, hjudged, hsome⟩ := exists_judge_of_acceptable hfilled hvalid now s
  unfold BrokenBy
  rw [hjudged, completionTime_judgeFailures, completionTime_judgeFailures, completionTime_judgeMaster, getD_getD,
    getD_getD, doneBy_iff hm, hsome (· ≠ .exitCode)]
  by_cases hverdict : m.count - (s.countsOf masterType).succeeded = 0 ∨
      m.restart ≠ .exitCode ∧ 0 < (s.countsOf masterType).failed ∨ restart ≠ .exitCode ∧ 0 < failed
  · exact .inl ⟨hverdict, if_pos hverdict⟩
  · exact .inr ⟨hverdict, if_neg hverdict⟩

end Acceptable

/-- **A job that has not failed is failed by a failed pod that is not replaced, and by nothing else**; else it is
restarting if a pod is replaced. It is done if it was or once all masters have succeeded, and it has the time of the
verdict if it had it or gets one of the two. -/
theorem restart_or_fail {σ : Type} [ObjectStore σ] (job : Job) (hvalid : job.withDefaults.spec.fault? = none)
    {s : JobStatus} (hs : s.isFailed = false) (now : Timestamp) (c : Controller σ) :
    ∃ s', ((Controller.judge now job.withDefaults s).run c).1 = .ok s' ∧
      (s'.isFailed = true ↔ job.withDefaults.BrokenBy s) ∧
      (s'.isFailed = false → job.withDefaults.ReplacedBy s → s'.holds .restarting = true) ∧
      (s'.isSucceeded = true ↔ s.isSucceeded = true ∨ job.withDefaults.DoneBy s) ∧
      (s'.completionTime.isSome = true ↔
        s.completionTime.isSome = true ∨ job.withDefaults.DoneBy s ∨ job.withDefaults.BrokenBy s) ∧
      ∀ t, s.completionTime = some t → s'.completionTime = some t := by
  have hfilled := filled_withDefaults job
  -- The monadic judge answers what the plain fold does; each part is then a lemma about the fold.
  refine ⟨(job.withDefaults.judge now s).status, run_judge (error_judgeTypes hfilled s) c,
    isFailed_judge_iff now hfilled hs, holds_restarting_judge now hfilled hvalid,
    isSucceeded_judge_iff now hfilled hvalid hs, ?_, ?_⟩
  · obtain ⟨hverdict, htime⟩ | ⟨hverdict, htime⟩ := completionTime_judge now hfilled hvalid s
    · rw [htime]
      exact iff_of_true rfl (.inr hverdict)
    · rw [htime, or_iff_left hverdict]
  · intro t ht
    obtain ⟨-, htime⟩ | ⟨-, htime⟩ := completionTime_judge now hfilled hvalid s
    · rw [htime, ht]
      rfl
    · rw [htime, ht]

/-- A job whose master is replaced by exit code, and whose two workers are not. -/
def mixedJob : Job := sampleJob {} [(masterType, sampleType 1 .exitCode), (workerType, sampleType 1 .never)] none

/-- The master runs again after a failure, and one of the workers has failed now. -/
def brokenAtWork : JobStatus where
  conditions := [.holding .created "XGBoostJobCreated" "" (sampleTime 1),
    .holding .running Reason.jobRunning "" (sampleTime 2)]
  replicaStatuses := .ofList [(masterType, { active := 1 }), (workerType, { active := 1, failed := 1 })]
  startTime := some (sampleTime 1)

/-- A worker that is not replaced breaks this job while others are at work. -/
theorem restart_or_fail_brokenAtWork :
    mixedJob.withDefaults.spec.fault? = none ∧ brokenAtWork.isFailed = false ∧
      ∃ s', ((Controller.judge (sampleTime 3) mixedJob.withDefaults brokenAtWork).run (sampleStart mixedJob)).1 =
          .ok s' ∧
        s'.isFailed = true ∧ s'.isSucceeded = false ∧ s'.completionTime.isSome = true := by
  have hvalid : mixedJob.withDefaults.spec.fault? = none := by decide +kernel
  have hs : brokenAtWork.isFailed = false := by decide +kernel
  have hbroken : mixedJob.withDefaults.BrokenBy brokenAtWork := by decide +kernel
  have hundone : ¬ (brokenAtWork.isSucceeded = true ∨ mixedJob.withDefaults.DoneBy brokenAtWork) := by decide +kernel
  obtain ⟨s', hrun, hfailed, -, hsucceeded, htime, -⟩ :=
    restart_or_fail mixedJob hvalid hs (sampleTime 3) (sampleStart mixedJob)
  exact ⟨hvalid, hs, s', hrun, hfailed.2 hbroken, Bool.not_eq_true _ ▸ fun h => hundone (hsucceeded.1 h),
    htime.2 (.inr (.inr hbroken))⟩

/-! ## One verdict or two -/

/-- The one master that has succeeded neither runs nor has failed. -/
theorem idle_of_done {m : ReplicaSpec} {counts : ReplicaCounts} {pods : List Pod} (hcount : m.count = 1)
    (hcounts : counts = .ofPods (podPlan masterType m pods).seated) (hdone : m.count - counts.succeeded = 0) :
    counts.active ≤ 0 ∧ counts.failed ≤ 0 := by
  -- A master has one slot, hence at most one counted pod; it succeeded, so none runs and none failed.
  have hlength := length_seated_le masterType m pods
  have hslot : m.slotCount = 1 := congrArg Int32.toNatClampNeg hcount
  have hactive := phaseCount_add_le (show "Succeeded" ≠ "Running" by decide) (podPlan masterType m pods).seated
  have hfailed := phaseCount_add_le (show "Succeeded" ≠ "Failed" by decide) (podPlan masterType m pods).seated
  have hone : phaseCount "Succeeded" (podPlan masterType m pods).seated = 1 := by
    rw [hcount, hcounts, int32_sub_eq_zero, ← Int32.toInt_inj] at hdone
    exact Int.ofNat_inj.1 ((toInt_phaseCount_seated _ _ _ _).symm.trans hdone.symm)
  have hnone : ∀ phase, phaseCount phase (podPlan masterType m pods).seated = 0 →
      Int32.ofNat (phaseCount phase (podPlan masterType m pods).seated) ≤ 0 := by
    intro phase hphase
    rw [hphase]
    exact Int32.le_refl 0
  rw [hcounts]
  exact ⟨hnone "Running" (by omega), hnone "Failed" (by omega)⟩

/-- What a job that gets done is said to be doing: not to run, but to be restarting, if it was or is. -/
theorem holds_judge_of_done (hfilled : Filled job.spec.replicaSpecs.entries) (hvalid : job.spec.fault? = none)
    (hopen : s.isFinished = false) {pods : List Pod}
    (hcounts : ∀ e ∈ job.spec.replicaSpecs.entries, s.countsOf e.1 = .ofPods (podPlan e.1 e.2 pods).seated)
    (hdone : job.DoneBy s) (now : Timestamp) :
    (job.judge now s).status.holds .running = false ∧
      ((job.judge now s).status.holds .restarting = true ↔ s.holds .restarting = true ∨ job.ReplacedBy s) := by
  obtain ⟨m, restart, failed, hm, hcount, hjudged, hsome⟩ := exists_judge_of_acceptable hfilled hvalid now s
  rw [doneBy_iff hm] at hdone
  have hseated : s.countsOf masterType = .ofPods (podPlan masterType m pods).seated := hcounts (masterType, m) hm
  obtain ⟨hactive, hnone⟩ := idle_of_done hcount hseated hdone
  have hfailed := (Bool.or_eq_false_iff.1 hopen).2
  obtain ⟨hrunning, hrestarting⟩ :=
    holds_judgeMaster_of_done job now m.count (s.countsOf masterType) hopen hdone hactive
  have hmaster : (job.judgeMaster m.count (s.countsOf masterType) now s).1.isFailed = false := by
    rw [isFailed_judgeMaster, hfailed]
  have hfailures : (job.judgeFailures masterType m.restart (s.countsOf masterType).failed now
      (job.judgeMaster m.count (s.countsOf masterType) now s).1).1.isFailed = false := by
    rw [isFailed_judgeFailures, hmaster, decide_eq_false (Int32.not_lt.2 hnone), Bool.and_false, Bool.or_false]
  -- The failures of the two types are judged after the master and raise no `Running`.
  constructor
  · rw [hjudged, ← Bool.not_eq_true]
    intro h
    have hbefore := holds_of_holds_judgeFailures _ _ _ _ _ (holds_of_holds_judgeFailures _ _ _ _ _ h)
    exact Bool.false_ne_true (hrunning.symm.trans hbefore)
  · unfold ReplacedBy
    rw [hjudged, holds_restarting_judgeFailures _ _ _ _ _ hfailures,
      holds_restarting_judgeFailures _ _ _ _ _ hmaster, hrestarting, hsome (· = .exitCode), or_assoc]

/-- **A job without a verdict gets two of them exactly if all masters have succeeded and a pod has failed that is not
replaced.** A job that gets done never runs after it, but it is said to be restarting exactly if it was before, or
if a pod that is replaced has failed. -/
theorem double_verdict_iff {σ : Type} [ObjectStore σ] (job : Job) (hvalid : job.withDefaults.spec.fault? = none)
    {s : JobStatus} (hopen : s.isFinished = false) {pods : List Pod}
    (hcounts : ∀ e ∈ job.withDefaults.spec.replicaSpecs.entries,
      s.countsOf e.1 = .ofPods (podPlan e.1 e.2 pods).seated) (now : Timestamp) (c : Controller σ) :
    ∃ s', ((Controller.judge now job.withDefaults s).run c).1 = .ok s' ∧
      (s'.isSucceeded = true ∧ s'.isFailed = true ↔ job.withDefaults.DoneBy s ∧ job.withDefaults.BrokenBy s) ∧
      (s'.isSucceeded = true → s'.holds .running = false) ∧
      (s'.isSucceeded = true ∧ s'.holds .restarting = true ↔
        job.withDefaults.DoneBy s ∧ (s.holds .restarting = true ∨ job.withDefaults.ReplacedBy s)) := by
  have hfilled := filled_withDefaults job
  obtain ⟨hsucceeded, hfailed⟩ := Bool.or_eq_false_iff.1 hopen
  have hdone : (job.withDefaults.judge now s).status.isSucceeded = true ↔ job.withDefaults.DoneBy s := by
    rw [isSucceeded_judge_iff now hfilled hvalid hfailed, hsucceeded]
    exact or_iff_right Bool.false_ne_true
  -- An open status holds neither verdict, so both must be this pass's own.
  refine ⟨(job.withDefaults.judge now s).status, run_judge (error_judgeTypes hfilled s) c, ?_, ?_, ?_⟩
  · rw [hdone, isFailed_judge_iff now hfilled hfailed]
  · intro h
    exact (holds_judge_of_done hfilled hvalid hopen hcounts (hdone.1 h) now).1
  · rw [hdone]
    exact and_congr_right fun h => (holds_judge_of_done hfilled hvalid hopen hcounts h now).2

/-- The master that was made after a failure has succeeded, and the worker was killed. -/
def doneAndBroken : JobStatus :=
  counted [samplePod masterType 0 "Succeeded" (some 0), samplePod workerType 0 "Failed" (some 137)]
    mixedJob.withDefaults.spec.replicaSpecs.entries
    { conditions := [.holding .created "XGBoostJobCreated" "" (sampleTime 1),
        .holding .restarting Reason.jobRestarting "" (sampleTime 2)]
      startTime := some (sampleTime 1) }

/-- The master of this job is done, and a worker of it is broken for good, both at once. -/
theorem double_verdict_iff_doneAndBroken :
    mixedJob.withDefaults.spec.fault? = none ∧ doneAndBroken.isFinished = false ∧
      ∃ s', ((Controller.judge (sampleTime 4) mixedJob.withDefaults doneAndBroken).run (sampleStart mixedJob)).1 =
          .ok s' ∧
        (s'.isSucceeded = true ∧ s'.isFailed = true) ∧ s'.holds .running = false ∧ s'.holds .restarting = true := by
  have hvalid : mixedJob.withDefaults.spec.fault? = none := by decide +kernel
  have hopen : doneAndBroken.isFinished = false := by decide +kernel
  have hdone : mixedJob.withDefaults.DoneBy doneAndBroken := by decide +kernel
  have hbroken : mixedJob.withDefaults.BrokenBy doneAndBroken := by decide +kernel
  have hrestarting : doneAndBroken.holds .restarting = true := by decide +kernel
  obtain ⟨s', hrun, hboth, hrunning, hrestarts⟩ := double_verdict_iff mixedJob hvalid hopen
    (fun e he => countsOf_counted _ mixedJob.withDefaults.spec.replicaSpecs.sorted he) (sampleTime 4)
    (sampleStart mixedJob)
  have hverdicts := hboth.2 ⟨hdone, hbroken⟩
  exact ⟨hvalid, hopen, s', hrun, hverdicts, hrunning hverdicts.1, (hrestarts.2 ⟨hdone, .inl hrestarting⟩).2⟩

/-- The job is submitted. Its master is killed, taken away by the next pass and made anew by the one after it, and then
it succeeds, and the worker is killed. The controller sees nothing of the pods between its passes, so it waits each
time until it does not expect them any more. -/
def doneAndBrokenAtOnce : Controller MemoryStore :=
  let master : Address := ⟨"default", slotName "iris" masterType 0⟩
  played sampleKey
    [.pass (sampleTime 1), .report master killed, .pass (sampleTime 400), .pass (sampleTime 800),
      .phase master "Succeeded", .report ⟨"default", slotName "iris" workerType 0⟩ killed]
    (submitted {} { clock := ⟨0⟩ } mixedJob)

/-- The pass finds a job without a verdict, and leaves one that is done, has failed and is being restarted. -/
theorem two_verdicts_at_once :
    (doneAndBrokenAtOnce.store.jobs.get? sampleAddress).map (fun job => job.currentStatus.isFinished) = some false ∧
      (((sync (sampleTime 1200) sampleKey).run doneAndBrokenAtOnce).2.store.jobs.get? sampleAddress).map (fun job =>
        (job.currentStatus.isSucceeded, job.currentStatus.isFailed, job.currentStatus.holds .restarting)) =
          some (true, true, true) := by
  decide +kernel

end Job

end TrainingJobs
