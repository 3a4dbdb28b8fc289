/-
What is left of a failure that could not be written down.

A pass that finds a job past a limit first cleans up and then writes the verdict. When a request in between is
refused, the verdict is lost, and the next pass has to reach it again from what is left. It does so from the
stored job, which no failed pass has changed, and from the pods that are still there. **So the job is failed
by the next pass that ends well exactly when nothing is outstanding for it and it is still past a limit, or a
failed pod is left that is not replaced** (`failure_survives_iff`); a verdict by the deadline does not hang on
the pods and is always reached again.
-/
import TrainingJobs.Proofs.Judgement
import TrainingJobs.Proofs.Limits
import TrainingJobs.Proofs.Outstanding

set_option autoImplicit false

namespace TrainingJobs

open Controller

/-! ## The decision, and its repetition -/

namespace Job

/-- A pass finds the stored job past a limit, and there is no verdict on it yet. -/
def PastLimit (stored : Job) (now : Timestamp) (c : Controller MemoryStore) : Prop :=
  let job := stored.withDefaults
  job.spec.fault? = none ∧ ¬ job.HeldUp now c ∧ job.currentStatus.isFinished = false ∧
    (job.exceeded? (job.podsIn c.store) (c.retries.count job.key) (job.takenIn now) now).isSome = true

instance (stored : Job) (now : Timestamp) (c : Controller MemoryStore) : Decidable (stored.PastLimit now c) :=
  inferInstanceAs (Decidable (_ ∧ _ ∧ _ ∧ _))

variable {job : Job} {now : Timestamp} {pods : List Pod} {retries : Nat}

/-- A look at a job without a verdict fails it exactly when it is given up, or when it is past no limit and a
failed pod of it is not replaced. -/
theorem isFailed_resolved (hfilled : Filled job.spec.replicaSpecs.entries)
    (hunfinished : job.currentStatus.isFinished = false) :
    ((job.resolved now pods retries).statusAfter job.currentStatus).isFailed = true ↔
      job.GivenUp now pods retries ∨
        job.exceeded? pods retries (job.takenIn now) now = none ∧ job.Broken pods := by
  have hunfailed : job.currentStatus.isFailed = false := (Bool.or_eq_false_iff.1 hunfinished).2
  unfold resolved
  simp only [isFinished_takenIn, hunfinished, Bool.false_or]
  rcases hlimit : job.exceeded? pods retries (job.takenIn now) now with _ | message
  · simp only [Option.isSome_none, Bool.false_eq_true, if_false, or_iff_right (not_givenUp_of_within hlimit), true_and]
    rw [(verdict_written job now _).2, isFailed_assessed hfilled, hunfailed]
    exact or_iff_right Bool.false_ne_true
  · simp only [Option.isSome_some, if_true, givenUp_iff_of_over hlimit, reduceCtorEq, false_and, or_false]
    -- A job that expires as it fails is deleted and has no status to tell it by.
    by_cases hexpired : job.Expired now (job.closed now (some message))
    · rw [ended_of_expired hexpired]
      exact iff_of_false (by rw [Resolution.statusAfter, hunfailed]; exact Bool.false_ne_true)
        (not_not_intro hexpired)
    · rw [ended_of_not_expired hexpired, (verdict_written job now _).2, isFailed_closed, Option.isSome_some,
        Bool.or_true]
      exact iff_of_true rfl hexpired

end Job

/-- Between two passes a job and its record are left alone, and nothing is asked for on its behalf. Whatever
happens elsewhere does not matter, nor which failures wait for which requests. -/
structure Quiet (a : Address) (jobKey : String) (c c' : Controller MemoryStore) : Prop where
  record : c'.store.jobs.get? a = c.store.jobs.get? a
  eased : Eased jobKey c c'

/-- A pass that fails, and what follows it as long as no pass ends well: from where to where it leads, and
when the first and the last of its passes are made. -/
inductive Retried (key : String) (a : Address) (jobKey : String) (first : Timestamp)
    (start : Controller MemoryStore) : Timestamp → Controller MemoryStore → Prop
  /-- The first pass fails. -/
  | first {e : OperatorError} {c : Controller MemoryStore} (h : (sync first key).run start = (.error e, c)) :
    Retried key a jobKey first start first c
  /-- One more pass fails, no sooner than the last. -/
  | again {last now : Timestamp} {e : OperatorError} {c c' : Controller MemoryStore}
    (h : Retried key a jobKey first start last c) (htime : last.nanos ≤ now.nanos)
    (hrun : (sync now key).run c = (.error e, c')) : Retried key a jobKey first start now c'
  /-- Between two passes the job is left alone. -/
  | aside {last : Timestamp} {c c' : Controller MemoryStore}
    (h : Retried key a jobKey first start last c) (hc : Quiet a jobKey c c') :
    Retried key a jobKey first start last c'

section Retried

variable {key jobKey : String} {a : Address} {first last : Timestamp} {start c : Controller MemoryStore}
  {stored : Job}

/-- Retries come one after the other in time. -/
theorem Retried.le (h : Retried key a jobKey first start last c) : first.nanos ≤ last.nanos := by
  induction h with
  | first _ => exact Int.le_refl _
  | again _ htime _ ih => exact Int.le_trans ih htime
  | aside _ _ ih => exact ih

/-- Passes that fail leave the record of the job as it was. -/
theorem Retried.record (h : Retried key a jobKey first start last c)
    (hkey : splitKey? key = some (a.ns, a.name)) (hstored : start.store.jobs.get? a = some stored)
    (haddress : stored.address = a) : c.store.jobs.get? a = some stored := by
  induction h with
  | first hrun => rw [((yields_sync first hkey hstored haddress).error hrun).jobs, hstored]
  | @again last now e c c' _ _ hrun ih => rw [((yields_sync now hkey ih haddress).error hrun).jobs, ih]
  | aside _ hc ih => rw [hc.record, ih]

/-- Passes over a job past its deadline leave nothing outstanding for it when nothing was at first. -/
theorem Retried.eased (h : Retried key a stored.key first start last c)
    (hkey : splitKey? key = some (a.ns, a.name)) (hstored : start.store.jobs.get? a = some stored)
    (haddress : stored.address = a) (hvalid : stored.withDefaults.spec.fault? = none)
    (hdeadline : stored.withDefaults.PastDeadline first) :
    Eased stored.key start c := by
  -- By the deadline every later pass finds the job past a limit, whatever it finds of the pods.
  have hlimit : ∀ (now : Timestamp) pods retries, first.nanos ≤ now.nanos →
      (stored.withDefaults.exceeded? pods retries (stored.withDefaults.takenIn now) now).isSome = true :=
    fun now pods retries htime => Job.exceeded?_isSome_iff.2 (.inr (hdeadline.mono htime))
  induction h with
  | @first e c hrun =>
    have heased := eased_sync stored.key hkey hstored hvalid (hlimit first _ _ (Int.le_refl _))
    rw [hrun] at heased
    exact heased
  | @again last now e c c' h htime hrun ih =>
    have hlater := Int.le_trans h.le htime
    have hstored' := h.record hkey hstored haddress
    have heased := eased_sync stored.key hkey hstored' hvalid (hlimit now _ _ hlater)
    rw [hrun] at heased
    exact (eased_frame stored.key).trans ih heased
  | aside _ hc ih => exact (eased_frame stored.key).trans ih hc.eased

end Retried

/-- **After a pass over a job past a limit has failed, the next one that ends well fails the job exactly when
nothing is outstanding for it and what is left shows the verdict again: the job is past a limit and not to be
deleted for it, or a failed pod is left that is not replaced.** A verdict by the deadline needs nothing that is
left, so a job that is kept after its end is failed by it in any case. -/
theorem failure_survives_iff {key : String} {a : Address} {first last now : Timestamp}
    {start c c' : Controller MemoryStore} {stored job : Job} {outcome : Outcome}
    (hkey : splitKey? key = some (a.ns, a.name)) (hstored : start.store.jobs.get? a = some stored)
    (haddress : stored.address = a) (hlimit : stored.PastLimit first start)
    (hretried : Retried key a stored.key first start last c) (htime : last.nanos ≤ now.nanos)
    (hrun : (sync now key).run c = (.ok outcome, c')) (hjob : c'.store.jobs.get? a = some job) :
    (job.currentStatus.isFailed = true ↔
      ¬ stored.withDefaults.HeldUp now c ∧
        (stored.withDefaults.GivenUp now (stored.withDefaults.podsIn c.store) (c.retries.count stored.key) ∨
          ¬ stored.PastLimit now c ∧ stored.withDefaults.Broken (stored.withDefaults.podsIn c.store))) ∧
      (stored.withDefaults.PastDeadline first → stored.spec.runPolicy.ttlSecondsAfterFinished = none →
        job.currentStatus.isFailed = true) := by
  obtain ⟨hvalid, hfree, hunfinished, hfirst⟩ := hlimit
  have hrecord := hretried.record hkey hstored haddress
  obtain ⟨found, hfound, hstatus, -⟩ := ((yields_sync now hkey hrecord haddress).ok hrun).2.stored hjob
  rw [hrecord, Option.some.injEq] at hfound
  subst hfound
  -- The record has not changed, so of being past a limit only what hangs on the pods and the clock is left.
  have hpast : stored.PastLimit now c ↔ ¬ stored.withDefaults.HeldUp now c ∧
      (stored.withDefaults.exceeded? (stored.withDefaults.podsIn c.store) (c.retries.count stored.key)
        (stored.withDefaults.takenIn now) now).isSome = true :=
    ⟨fun h => ⟨h.2.1, h.2.2.2⟩, fun h => ⟨hvalid, h.1, hunfinished, h.2⟩⟩
  have hfailed : job.currentStatus.isFailed = true ↔ ¬ stored.withDefaults.HeldUp now c ∧
      (stored.withDefaults.GivenUp now (stored.withDefaults.podsIn c.store) (c.retries.count stored.key) ∨
        ¬ stored.PastLimit now c ∧ stored.withDefaults.Broken (stored.withDefaults.podsIn c.store)) := by
    rw [hstatus]
    unfold Job.outlook
    simp only
    rw [hvalid]
    simp only
    by_cases hheld : stored.withDefaults.HeldUp now c
    · -- A pass that is held up keeps the status, which has no verdict.
      rw [if_pos hheld]
      have hunfailed : stored.currentStatus.isFailed = false := (Bool.or_eq_false_iff.1 hunfinished).2
      exact iff_of_false (by rw [Resolution.statusAfter, hunfailed]; exact Bool.false_ne_true)
        fun h => h.1 hheld
    · rw [if_neg hheld, hpast, and_iff_right hheld, and_iff_right hheld, Bool.not_eq_true,
        Option.isSome_eq_false_iff, Option.isNone_iff_eq_none]
      exact Job.isFailed_resolved (Job.filled_withDefaults stored) hunfinished
  refine ⟨hfailed, fun hdeadline hkept => ?_⟩
  -- The end of a job asks for nothing, so the job is as free as it was at first.
  have heased := hretried.eased hkey hstored haddress hvalid hdeadline
  have hlater := Int.le_trans hretried.le htime
  have hfree' := (show Eased stored.withDefaults.key start c from heased).not_heldUp hlater hfree
  have hagain : (stored.withDefaults.exceeded? (stored.withDefaults.podsIn c.store)
      (c.retries.count stored.key) (stored.withDefaults.takenIn now) now).isSome = true :=
    Job.exceeded?_isSome_iff.2 (.inr (hdeadline.mono hlater))
  obtain ⟨message, hmessage⟩ := Option.isSome_iff_exists.1 hagain
  refine hfailed.2 ⟨hfree', .inl ⟨message, hmessage, ?_⟩⟩
  -- A job without a time to live is not deleted, however long it has been at its end.
  rintro ⟨remaining, hremaining, -⟩
  unfold Job.timeToLive? at hremaining
  rw [show stored.withDefaults.spec.runPolicy.ttlSecondsAfterFinished = none from hkept] at hremaining
  exact absurd hremaining (by simp)

/-- A job of a master and a worker without retries, whose pods are replaced by exit code: the master was
killed, and the deletion of a service is going to be refused. -/
def killedMaster : Controller MemoryStore :=
  let start := sampleStartWith (sampleJob { backoffLimit := some 0, cleanPodPolicy := some .all }
      [(masterType, sampleType 1 .exitCode), (workerType, sampleType 1 .exitCode)] none)
    [samplePod masterType 0 "Failed" (some 137), samplePod workerType 0 "Running" none]
  { start with store := start.store.failNext .deleteService (.timeout "delete service") }

/-- The killed master after a pass that could not delete its service. -/
def verdictLost : Controller MemoryStore := ((sync (sampleTime 2) sampleKey).run killedMaster).2

/-- What the second pass makes of the job is what is left to be found by it. -/
theorem failure_survives_iff_killedMaster :
    ∃ stored job : Job, killedMaster.store.jobs.get? sampleAddress = some stored ∧
      ((sync (sampleTime 3) sampleKey).run verdictLost).2.store.jobs.get? sampleAddress = some job ∧
      (job.currentStatus.isFailed = true ↔
        ¬ stored.withDefaults.HeldUp (sampleTime 3) verdictLost ∧
          (stored.withDefaults.GivenUp (sampleTime 3) (stored.withDefaults.podsIn verdictLost.store)
              (verdictLost.retries.count stored.key) ∨
            ¬ stored.PastLimit (sampleTime 3) verdictLost ∧
              stored.withDefaults.Broken (stored.withDefaults.podsIn verdictLost.store))) := by
  have hstart : (killedMaster.store.jobs.get? sampleAddress).map (fun job =>
      (job.address, decide (job.PastLimit (sampleTime 2) killedMaster))) = some (sampleAddress, true) := by
    decide +kernel
  obtain ⟨stored, hstored, hfound⟩ := Option.map_eq_some_iff.1 hstart
  rw [Prod.mk.injEq, decide_eq_true_eq] at hfound
  obtain ⟨e, hfailed⟩ := exists_run_error
    (show ((sync (sampleTime 2) sampleKey).run killedMaster).1.isOk = false by decide +kernel)
  rw [← verdictLost] at hfailed
  obtain ⟨outcome, hrun⟩ := exists_run_ok
    (show ((sync (sampleTime 3) sampleKey).run verdictLost).1.isOk = true by decide +kernel)
  rcases hjob : ((sync (sampleTime 3) sampleKey).run verdictLost).2.store.jobs.get? sampleAddress with _ | job
  · exact absurd hjob (by decide +kernel)
  · exact ⟨stored, job, hstored, rfl, (failure_survives_iff (by decide +kernel) hstored hfound.1 hfound.2
      (.first hfailed) (by decide) hrun hjob).1⟩

/-- The first pass finds the job past its limit and fails, and the next one makes the master anew: the failure
is never written down. -/
theorem failure_lost_with_pods :
    (killedMaster.store.jobs.get? sampleAddress).map
        (fun job => decide (job.PastLimit (sampleTime 2) killedMaster)) = some true ∧
      ((sync (sampleTime 2) sampleKey).run killedMaster).1.isOk = false ∧
      ((sync (sampleTime 3) sampleKey).run verdictLost).1.isOk = true ∧
      (((sync (sampleTime 3) sampleKey).run verdictLost).2.store.jobs.get? sampleAddress).map
        (fun job => job.currentStatus.isFailed) = some false := by
  refine ⟨?_, ?_, ?_, ?_⟩ <;> decide +kernel

end TrainingJobs
