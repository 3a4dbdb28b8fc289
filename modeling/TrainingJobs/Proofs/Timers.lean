/-
When a job is looked at again, and that this is neither too early nor too late.

Two timers run for a job. The one for its deadline counts in whole seconds: what has gone by is cut, so what is left
is rounded up, and a pass that comes back after it finds the deadline passed (`Timestamp.RoundedUp`). The one for the
time to live is exact to the nanosecond: a pass that ends a job deletes it just if its time is over, and otherwise asks
to come back at that very instant (`Controller.OnTime`). **So no timer goes off early, and none has to be set twice**:
`timers_exact` says both, of the numbers and of the passes that act on them.
-/
import TrainingJobs.Proofs.CleanPolicy
import TrainingJobs.Proofs.StatusWrites

set_option autoImplicit false

namespace TrainingJobs

open Controller MemoryStore

/-! ## What is left until a deadline -/

namespace Timestamp

variable {start now due : Timestamp}

theorem nanos_addSeconds (t : Timestamp) (n : Int) : (t.addSeconds n).nanos = t.nanos + n * 1000000000 := rfl

/-- So many whole seconds have gone by just if the instant that comes so many seconds after the start has come. -/
theorem le_wholeSecondsSince_iff (h : start.nanos ≤ now.nanos) (n : Int) :
    n ≤ now.wholeSecondsSince start ↔ (start.addSeconds n).nanos ≤ now.nanos := by
  have hnonneg : 0 ≤ now.nanos - start.nanos := by omega
  unfold wholeSecondsSince
  rw [Int.tdiv_eq_ediv_of_nonneg hnonneg, Int.le_ediv_iff_mul_le (by decide), nanos_addSeconds]
  change n * 1000000000 ≤ now.nanos - start.nanos ↔ _
  omega

/-- So many seconds are left until an instant: none if it has come, and else the fewest that are enough. -/
structure RoundedUp (now due : Timestamp) (seconds : Nat) : Prop where
  passed : seconds = 0 ↔ due.nanos ≤ now.nanos
  enough : due.nanos ≤ (now.addSeconds seconds).nanos
  /-- Less than a second is waited in vain. -/
  close : 0 < seconds → (now.addSeconds seconds).nanos < (due.addSeconds 1).nanos

/-- What the whole seconds that have gone by leave of a number of seconds is rounded up. -/
theorem roundedUp_sub (h : start.nanos ≤ now.nanos) (n : Int) :
    now.RoundedUp (start.addSeconds n) (n - now.wholeSecondsSince start).toNat := by
  have hover := le_wholeSecondsSince_iff h n
  have hgone := (le_wholeSecondsSince_iff h (now.wholeSecondsSince start)).1 (Int.le_refl _)
  -- The whole seconds gone are the last that fit before `now`.
  have hnext : ¬ (start.addSeconds (now.wholeSecondsSince start + 1)).nanos ≤ now.nanos := by
    rw [← le_wholeSecondsSince_iff h]
    omega
  generalize now.wholeSecondsSince start = gone at *
  constructor
  · rw [← hover]
    omega
  · simp only [nanos_addSeconds] at *
    omega
  · intro hpos
    simp only [nanos_addSeconds] at *
    omega

end Timestamp

namespace Job

variable {job : Job} {status : JobStatus} {start now : Timestamp} {deadline : Int}

/-- How much is left of a deadline that can be asked for, once the job has started: the bound on what can be left is
never met. -/
theorem deadlineSeconds?_eq (hdeadline : job.spec.runPolicy.activeDeadlineSeconds = some deadline)
    (hlongest : deadline ≤ longestDeadline) (hstart : status.startTime = some start)
    (hpast : start.nanos ≤ now.nanos) :
    job.deadlineSeconds? status now = some (deadline - now.wholeSecondsSince start).toNat := by
  have hnonneg : 0 ≤ now.wholeSecondsSince start := by
    rw [Timestamp.le_wholeSecondsSince_iff hpast, Timestamp.nanos_addSeconds]
    omega
  unfold deadlineSeconds?
  rw [hdeadline, hstart]
  simp only [Option.bind_eq_bind, Option.bind_some, Option.some.injEq]
  -- The clamp at the longest deadline is out of reach, the one at zero is `toNat`.
  split
  · rfl
  · congr 1
    omega

/-- **What is told of a deadline is exact up to the rounding, and holds good when that time is over.** -/
theorem deadlineSeconds?_exact (hdeadline : job.spec.runPolicy.activeDeadlineSeconds = some deadline)
    (hlongest : deadline ≤ longestDeadline) (hstart : status.startTime = some start)
    (hpast : start.nanos ≤ now.nanos) : ∃ seconds, job.deadlineSeconds? status now = some seconds ∧
      now.RoundedUp (start.addSeconds deadline) seconds ∧
      job.deadlineSeconds? status (now.addSeconds seconds) = some 0 := by
  have hrounded := Timestamp.roundedUp_sub hpast deadline
  refine ⟨_, deadlineSeconds?_eq hdeadline hlongest hstart hpast, hrounded, ?_⟩
  generalize (deadline - now.wholeSecondsSince start).toNat = seconds at *
  have hlater : start.nanos ≤ (now.addSeconds seconds).nanos := by
    rw [Timestamp.nanos_addSeconds]
    omega
  rw [deadlineSeconds?_eq hdeadline hlongest hstart hlater, Option.some.injEq]
  exact (Timestamp.roundedUp_sub hlater deadline).passed.2 hrounded.enough

/-- The deadline of a job has passed just if the time from its start is over. -/
theorem pastDeadline_iff_due (hdeadline : job.spec.runPolicy.activeDeadlineSeconds = some deadline)
    (hstart : job.currentStatus.startTime.getD now = start) (hpast : start.nanos ≤ now.nanos) :
    job.PastDeadline now ↔ (start.addSeconds deadline).nanos ≤ now.nanos := by
  rw [pastDeadline_iff, hdeadline, hstart, ← Timestamp.le_wholeSecondsSince_iff hpast]
  simp only [Option.some.injEq, exists_eq_left']

end Job

/-! ## How a pass answers -/

namespace Job

variable {job : Job} {status : JobStatus} {now completed : Timestamp} {ttl : Int}

/-- The answer of a pass that has brought a job to its end with that status. -/
def answerAtEnd (job : Job) (now : Timestamp) (status : JobStatus) : Outcome :=
  match job.timeToLive? status now with
  | none => .done
  | some remaining => if 0 < remaining then .requeue ⟨remaining.toNat⟩ else .done

/-- The answer of a pass that has brought a job in line, replaced none of its pods and found it to have that
status. -/
def answerInLine (job : Job) (now : Timestamp) (status : JobStatus) : Outcome :=
  if status.isFinished then .wait
  else
    match job.deadlineSeconds? status now with
    | some seconds => .requeue (.ofSeconds seconds)
    | none => .wait

/-- What is left of the time to live, in nanoseconds: it may be over since long, and is negative then. -/
theorem timeToLive?_eq (httl : job.spec.runPolicy.ttlSecondsAfterFinished = some ttl)
    (hcompleted : status.completionTime = some completed) :
    job.timeToLive? status now = some ((completed.addSeconds ttl).nanos - now.nanos) := by
  unfold timeToLive?
  rw [httl, hcompleted]
  rfl

/-- The time to live of a job is over from the instant on at which it is due to go. -/
theorem expired_iff_due (httl : job.spec.runPolicy.ttlSecondsAfterFinished = some ttl)
    (hcompleted : status.completionTime = some completed) :
    job.Expired now status ↔ (completed.addSeconds ttl).nanos ≤ now.nanos := by
  unfold Expired
  rw [timeToLive?_eq httl hcompleted]
  simp only [Option.some.injEq, exists_eq_left']
  omega

/-- There is nothing to come back for when the time to live of a job is over. -/
theorem answerAtEnd_of_expired (h : job.Expired now status) : job.answerAtEnd now status = .done := by
  obtain ⟨remaining, hremaining, hover⟩ := h
  unfold answerAtEnd
  rw [hremaining]
  exact if_neg (Int.not_lt.2 hover)

/-- A job that is not due yet is to be looked at again at the very instant at which it is. -/
theorem answerAtEnd_of_not_due (httl : job.spec.runPolicy.ttlSecondsAfterFinished = some ttl)
    (hcompleted : status.completionTime = some completed)
    (hdue : now.nanos < (completed.addSeconds ttl).nanos) :
    ∃ wait, job.answerAtEnd now status = .requeue wait ∧ 0 < wait.nanos ∧
      now.shift wait.nanos = completed.addSeconds ttl := by
  have hleft : 0 < (completed.addSeconds ttl).nanos - now.nanos := by omega
  refine ⟨⟨((completed.addSeconds ttl).nanos - now.nanos).toNat⟩, ?_, ?_, ?_⟩
  · unfold answerAtEnd
    rw [timeToLive?_eq httl hcompleted]
    exact if_pos hleft
  · change 0 < ((completed.addSeconds ttl).nanos - now.nanos).toNat
    omega
  · have hback : now.nanos + (((completed.addSeconds ttl).nanos - now.nanos).toNat : Int) =
        (completed.addSeconds ttl).nanos := by omega
    exact congrArg Timestamp.mk hback

/-- The start that a look at the pods leaves a job with is the one it was taken in with. -/
theorem startTime_assessed (job : Job) (now : Timestamp) (pods : List Pod) :
    (job.assessed now pods).startTime = some (job.currentStatus.startTime.getD now) := by
  have hcontinued : (job.takenIn now).ContinuedBy (job.assessed now pods) :=
    (continuedBy_counted pods job.spec.replicaSpecs.entries _).trans (job.continuedBy_judgeTypes now _ _)
  exact hcontinued.started _ (startTime_takenIn job now)

/-- Whether it is written or known already, the start is that of the status. -/
theorem startTime_written (job : Job) (now : Timestamp) (status : JobStatus) :
    ((job.written now status).statusAfter job.currentStatus).startTime = status.startTime := by
  unfold written
  split
  · rfl
  · next h =>
    rw [Decidable.not_not.1 h]
    rfl

end Job

namespace Controller

variable {now : Timestamp} {job : Job} {c : Controller MemoryStore}

/-- Nothing makes the next call of the operation fail. -/
def Accepts (op : StoreOp) (c : Controller MemoryStore) : Prop := ∀ f ∈ c.store.failures, f.1 ≠ op

instance (op : StoreOp) (c : Controller MemoryStore) : Decidable (Accepts op c) :=
  inferInstanceAs (Decidable (∀ f ∈ c.store.failures, f.1 ≠ op))

/-- A request that would be accepted before is accepted afterwards. -/
theorem SameRecords.accepts {op : StoreOp} {c₁ : Controller MemoryStore} (h : SameRecords c c₁) (hc : Accepts op c) :
    Accepts op c₁ := fun f hf => hc f (h.failures.subset hf)

/-- A deletion that is not made to fail leaves no job behind. -/
theorem gone_deleteJob (haccepts : Accepts .deleteJob c) :
    Yields (deleteJob job) c (fun _ c' => c'.store.jobs.get? job.address = none) fun _ _ => False := by
  unfold deleteJob
  rw [yields_bind, yields_attempt, yields_request, run_deleteJob, takeFailure?_eq_none haccepts]
  simp only
  -- A job that is gone already makes the call an error that is let pass.
  by_cases hthere : c.store.jobs.contains job.address = true
  · rw [if_pos hthere]
    change (c.store.jobs.erase job.address).get? job.address = none
    rw [Dict.get?_erase, if_pos Std.ReflCmp.compare_self]
  · rw [if_neg hthere]
    rw [Dict.contains, Bool.not_eq_true, Option.isSome_eq_false_iff, Option.isNone_iff_eq_none] at hthere
    exact hthere

/-- The last part of the end of a job answers by what is left of its time to live, and deletes it if that is
nothing. -/
theorem answer_conclude (status : JobStatus) (failure : Option String) (haccepts : Accepts .deleteJob c) :
    Yields (conclude now job status failure) c
      (fun outcome c' => outcome = job.answerAtEnd now (giveUp now failure status).settled ∧
        (job.Expired now (giveUp now failure status).settled → c'.store.jobs.get? job.address = none))
      fun _ _ => True := by
  have htold : ∀ events, Accepts .deleteJob { c with events := events } := fun _ => haccepts
  unfold conclude cleanUpJob Job.answerAtEnd Job.Expired
  rw [yields_bind, yields_tellAll, yields_bind]
  rcases job.timeToLive? (giveUp now failure status).settled now with _ | remaining
  · -- A job that stays for good is not deleted, whatever time has passed.
    rw [yields_pure, yields_bind]
    refine (Yields.trivial _ _).mono (fun _ _ _ => ⟨rfl, ?_⟩) fun _ _ => id
    rintro ⟨remaining, hnone, -⟩
    exact absurd hnone (by simp)
  · by_cases hleft : 0 < remaining
    · simp only [if_pos hleft]
      rw [yields_pure, yields_bind]
      refine (Yields.trivial _ _).mono (fun _ _ _ => ⟨rfl, ?_⟩) fun _ _ => id
      rintro ⟨_, hsome, hover⟩
      cases hsome
      exact absurd hleft (Int.not_lt.2 hover)
    · simp only [if_neg hleft]
      rw [yields_bind]
      exact (gone_deleteJob (htold _)).mono (fun _ _ hgone => ⟨rfl, fun _ => hgone⟩) fun _ _ _ => trivial

/-- The answer of a pass that ends a job goes by its time to live, and the job is gone if that is over. -/
theorem answer_terminate (pods : List Pod) (failure : Option String) (haccepts : Accepts .deleteJob c) :
    Yields (terminate now job pods (job.takenIn now) failure) c
      (fun outcome c' => outcome = job.answerAtEnd now (job.closed now failure) ∧
        (job.Expired now (job.closed now failure) → c'.store.jobs.get? job.address = none))
      fun _ _ => True :=
  yields_terminate_of_conclude (fun _ h₁ => answer_conclude _ failure (h₁.accepts haccepts)) fun _ _ _ => trivial

/-- A job that is brought in line is to be looked at again as a retry if pods of it are replaced, and else when its
deadline has passed. -/
theorem answer_advance (pods : List Pod) (services : List Service) :
    Yields (advance now job pods services (job.takenIn now)) c
      (fun outcome _ => outcome = .backoff ∨ outcome = job.answerInLine now (job.assessed now pods))
      fun _ _ => True := by
  change Yields (reconcileReplicas now job pods services _ _ >>= fun counted =>
    appraise now job counted.1 counted.2) c _ _
  rw [yields_bind]
  refine (yields_reconcileReplicas _ _ c).mono (fun counted c₁ h₁ => ?_) fun _ _ _ => trivial
  rw [h₁.1]
  unfold appraise judge
  rw [yields_bind, yields_bind, yields_tellAll]
  -- An error of the judge, then restarts under way, then the two answers in line.
  split
  · trivial
  · rw [yields_pure, yields_bind]
    refine (Yields.trivial _ _).mono (fun _ c₂ _ => ?_) fun _ _ => id
    change Yields (if 0 < counted.2 then _ else if (job.assessed now pods).isFinished then _ else
      match job.deadlineSeconds? (job.assessed now pods) now with | some seconds => _ | none => _) c₂ _ _
    unfold Job.answerInLine
    split
    · exact .inl rfl
    · split
      · exact .inr rfl
      · cases job.deadlineSeconds? (job.assessed now pods) now with
        | some seconds => exact .inr rfl
        | none => exact .inr rfl

end Controller

/-! ## The two timers -/

section Timers

variable {key : String} {a : Address} {stored : Job} {now due start completed : Timestamp} {deadline ttl : Int}
  {c : Controller MemoryStore}

/-- What a pass that attends to a job makes of the deadline of the job. -/
structure MeetsDeadline (key : String) (a : Address) (stored : Job) (due now : Timestamp)
    (c : Controller MemoryStore) : Prop where
  /-- From then on the job is brought to its end. -/
  passed : due.nanos ≤ now.nanos → stored.ReachesEnd now c
  /-- Before, a pass that has nothing else to come back for comes back when the deadline has passed, and then any pass
  that attends to what is left of the job brings it to its end. -/
  awaited : ¬ stored.ReachesEnd now c → ∀ outcome c', (sync now key).run c = (.ok outcome, c') →
    ∃ left, c'.store.jobs.get? a = some left ∧
      (¬ stored.BacksOff now c → left.currentStatus.isFinished = false →
        ∃ seconds, outcome = .requeue (.ofSeconds seconds) ∧ 0 < seconds ∧ now.RoundedUp due seconds) ∧
      ∀ later c₂, due.nanos ≤ later.nanos → c₂.store.jobs.get? a = some left →
        ¬ left.withDefaults.HeldUp later c₂ → left.ReachesEnd later c₂

/-- What a pass that brings a job to its end makes of the time to live of the job. -/
structure OnTime (key : String) (a : Address) (due now : Timestamp) (c : Controller MemoryStore) : Prop where
  /-- From then on the job is deleted. -/
  deletes : due.nanos ≤ now.nanos → ∀ outcome c', (sync now key).run c = (.ok outcome, c') →
    outcome = .done ∧ c'.store.jobs.get? a = none
  /-- Before, the job stays, and is to be looked at again at that very instant. -/
  waits : now.nanos < due.nanos → ∀ outcome c', (sync now key).run c = (.ok outcome, c') →
    (∃ wait, outcome = .requeue wait ∧ 0 < wait.nanos ∧ now.shift wait.nanos = due) ∧
      ∃ left, c'.store.jobs.get? a = some left
  /-- A pass that fails leaves the job alone. -/
  fails : ∀ e c', (sync now key).run c = (.error e, c') → c'.store.jobs = c.store.jobs
  /-- It does not fail by itself. -/
  succeeds : c.store.failures = [] → ∃ outcome c', (sync now key).run c = (.ok outcome, c')

/-- A pass that attends to a job whose deadline has passed brings it to its end. -/
theorem reachesEnd_of_due (hvalid : stored.withDefaults.spec.fault? = none)
    (hfree : ¬ stored.withDefaults.HeldUp now c)
    (hdeadline : stored.spec.runPolicy.activeDeadlineSeconds = some deadline)
    (hstart : stored.currentStatus.startTime.getD now = start) (hpast : start.nanos ≤ now.nanos)
    (hdue : (start.addSeconds deadline).nanos ≤ now.nanos) : stored.ReachesEnd now c := by
  have hover : stored.withDefaults.PastDeadline now := (Job.pastDeadline_iff_due hdeadline hstart hpast).2 hdue
  exact ⟨hvalid, hfree, .inr (Job.exceeded?_isSome_iff.2 (.inr hover))⟩

/-- What is left of a job that was not brought to its end is the same job, with the start it was taken in with, and
has a verdict if the look at its pods has given it one. -/
theorem exists_left_of_open {outcome : Outcome} {c' : Controller MemoryStore}
    (hkey : splitKey? key = some (a.ns, a.name)) (hstored : c.store.jobs.get? a = some stored)
    (haddress : stored.address = a) (hvalid : stored.withDefaults.spec.fault? = none)
    (hfree : ¬ stored.withDefaults.HeldUp now c) (hopen : ¬ stored.ReachesEnd now c)
    (hrun : (sync now key).run c = (.ok outcome, c')) :
    ∃ left, c'.store.jobs.get? a = some left ∧ SameJob stored left ∧
      left.currentStatus.startTime = some (stored.currentStatus.startTime.getD now) ∧
      left.currentStatus.isFinished =
        (stored.withDefaults.assessed now (stored.withDefaults.podsIn c.store)).isFinished := by
  obtain ⟨-, hresolved⟩ := (yields_sync now hkey hstored haddress).ok hrun
  rw [Job.outlook_of_open hvalid hfree hopen] at hresolved
  obtain ⟨left, hleft⟩ := hresolved.exists_left (Job.written_ne_removed _ _ _) hstored
  obtain ⟨hstatus, hsame⟩ := hresolved.left_of_stored hstored hleft
  change left.currentStatus = Resolution.statusAfter _ stored.withDefaults.currentStatus at hstatus
  refine ⟨left, hleft, hsame, ?_, ?_⟩
  · rw [hstatus, Job.startTime_written, Job.startTime_assessed]
    rfl
  · rw [hstatus, Job.isFinished_written]

/-- A pass that attends to a job meets its deadline. -/
theorem meetsDeadline_sync (hkey : splitKey? key = some (a.ns, a.name)) (hstored : c.store.jobs.get? a = some stored)
    (haddress : stored.address = a) (hvalid : stored.withDefaults.spec.fault? = none)
    (hfree : ¬ stored.withDefaults.HeldUp now c)
    (hdeadline : stored.spec.runPolicy.activeDeadlineSeconds = some deadline)
    (hlongest : deadline ≤ Job.longestDeadline) (hstart : stored.currentStatus.startTime.getD now = start)
    (hpast : start.nanos ≤ now.nanos) : MeetsDeadline key a stored (start.addSeconds deadline) now c := by
  have hpassed := reachesEnd_of_due hvalid hfree hdeadline hstart hpast
  refine ⟨hpassed, ?_⟩
  intro hopen outcome c' hrun
  have hnotDue : now.nanos < (start.addSeconds deadline).nanos := Int.not_le.1 (mt hpassed hopen)
  obtain ⟨left, hleft, hsame, hstartLeft, hfinished⟩ :=
    exists_left_of_open hkey hstored haddress hvalid hfree hopen hrun
  rw [hstart] at hstartLeft
  refine ⟨left, hleft, ?_, ?_⟩
  · intro hnone hunfinished
    have hpass : Yields (sync now key) c
        (fun outcome _ => outcome = .backoff ∨ outcome = stored.withDefaults.answerInLine now
          (stored.withDefaults.assessed now (stored.withDefaults.podsIn c.store))) fun _ _ => True :=
      yields_sync_of_open hkey hstored hvalid hfree hopen (fun _ _ _ => trivial) (answer_advance _ _)
    have hassessed := Job.startTime_assessed stored.withDefaults now (stored.withDefaults.podsIn c.store)
    rw [show stored.withDefaults.currentStatus.startTime.getD now = start from hstart] at hassessed
    rw [hfinished] at hunfinished
    -- No pod is replaced and there is no verdict, so what is left of the deadline is all there is to wait for.
    have hset : stored.withDefaults.spec.runPolicy.activeDeadlineSeconds = some deadline := hdeadline
    obtain ⟨seconds, hseconds, hrounded, -⟩ := Job.deadlineSeconds?_exact hset hlongest hassessed hpast
    have hanswer := (hpass.ok hrun).resolve_left
      fun hbackoff => hnone (((yields_sync now hkey hstored haddress).ok hrun).1 hbackoff)
    rw [Job.answerInLine, hunfinished, if_neg Bool.false_ne_true, hseconds] at hanswer
    refine ⟨seconds, hanswer, ?_, hrounded⟩
    apply Nat.pos_of_ne_zero
    intro hzero
    have hdue := hrounded.passed.1 hzero
    omega
  · intro later c₂ hdue _ hfree₂
    have hspec : left.withDefaults.spec = stored.withDefaults.spec := congrArg JobSpec.withDefaults hsame.spec
    have hstarted : left.currentStatus.startTime.getD later = start := by
      rw [hstartLeft, Option.getD_some]
    refine reachesEnd_of_due (hspec ▸ hvalid) hfree₂ (hsame.spec ▸ hdeadline) hstarted ?_ hdue
    omega

/-- A pass that brings a job to its end is on time with its deletion. -/
theorem onTime_sync (hkey : splitKey? key = some (a.ns, a.name)) (hstored : c.store.jobs.get? a = some stored)
    (haddress : stored.address = a) (hend : stored.ReachesEnd now c) (haccepts : Accepts .deleteJob c)
    (httl : stored.spec.runPolicy.ttlSecondsAfterFinished = some ttl)
    (hcompleted : (stored.withDefaults.closed now (stored.withDefaults.exceeded?
      (stored.withDefaults.podsIn c.store) (c.retries.count stored.withDefaults.key)
      (stored.withDefaults.takenIn now) now)).completionTime = some completed) :
    OnTime key a (completed.addSeconds ttl) now c := by
  subst haddress
  have hpass := yields_sync_of_end hkey hstored hend (fun _ _ _ => trivial) fun _ h₁ =>
      answer_terminate _ _ (h₁.toSameRecords.accepts haccepts)
  have hset : stored.withDefaults.spec.runPolicy.ttlSecondsAfterFinished = some ttl := httl
  -- The job is due by its time to live exactly when the controller reckons it to be expired.
  have hexpired : stored.withDefaults.Expired now _ ↔ _ := Job.expired_iff_due hset hcompleted
  constructor
  · intro hdue outcome c' hrun
    obtain ⟨hanswer, hgone⟩ := hpass.ok hrun
    have hover := hexpired.2 hdue
    refine ⟨?_, hgone hover⟩
    rw [hanswer, Job.answerAtEnd_of_expired hover]
  · intro hdue outcome c' hrun
    obtain ⟨hanswer, -⟩ := hpass.ok hrun
    obtain ⟨wait, hwait, hpositive, hinstant⟩ := Job.answerAtEnd_of_not_due hset hcompleted hdue
    refine ⟨⟨wait, hanswer.trans hwait, hpositive, hinstant⟩, ?_⟩
    obtain ⟨-, hresolved⟩ := (yields_sync now hkey hstored rfl).ok hrun
    rw [Job.outlook_of_end hend, Job.ended_of_not_expired (mt hexpired.1 (Int.not_le.2 hdue))] at hresolved
    exact hresolved.exists_left (Job.written_ne_removed _ _ _) hstored
  · intro e c' hrun
    exact ((yields_sync now hkey hstored rfl).error hrun).jobs
  · intro hfailures
    have hsucceeds : Yields (sync now key) c (fun _ _ => True) fun _ _ => False := by
      refine yields_sync_of_end hkey hstored hend ?_ fun c₁ h₁ => ?_
      · intro e rest hrefused
        rw [hfailures] at hrefused
        exact absurd hrefused (by simp [takeFailure?])
      · exact succeeds_terminate (h₁.toSameRecords.calm ⟨hfailures, stored, hstored⟩)
    rcases hrun : (sync now key).run c with ⟨e | outcome, c'⟩
    · exact (hsucceeds.error hrun).elim
    · exact ⟨outcome, c', rfl⟩

/-- A later pass over what was left of the job is on time, too: the time of the verdict and the time to live are what
they were, and the job still has its verdict. -/
theorem onTime_later {left : Job} {outcome : Outcome} {c' c₂ : Controller MemoryStore} {later : Timestamp}
    (hkey : splitKey? key = some (a.ns, a.name)) (hstored : c.store.jobs.get? a = some stored)
    (haddress : stored.address = a) (hend : stored.ReachesEnd now c) (haccepts : Accepts .deleteJob c)
    (httl : stored.spec.runPolicy.ttlSecondsAfterFinished = some ttl)
    (hcompleted : (stored.withDefaults.closed now (stored.withDefaults.exceeded?
      (stored.withDefaults.podsIn c.store) (c.retries.count stored.withDefaults.key)
      (stored.withDefaults.takenIn now) now)).completionTime = some completed)
    (hrun : (sync now key).run c = (.ok outcome, c')) (hleft : c'.store.jobs.get? a = some left)
    (hleft₂ : c₂.store.jobs.get? a = some left) (hfree₂ : ¬ left.withDefaults.HeldUp later c₂)
    (haccepts₂ : Accepts .deleteJob c₂) : OnTime key a (completed.addSeconds ttl) later c₂ := by
  have hstays : ¬ (completed.addSeconds ttl).nanos ≤ now.nanos := by
    intro hdue
    have hgone := ((onTime_sync hkey hstored haddress hend haccepts httl hcompleted).deletes hdue outcome c' hrun).2
    rw [hleft] at hgone
    exact absurd hgone (by simp)
  have hset : stored.withDefaults.spec.runPolicy.ttlSecondsAfterFinished = some ttl := httl
  rw [← Job.expired_iff_due hset hcompleted] at hstays
  obtain ⟨hsame, hfinished, hstatus⟩ := left_of_end hkey hstored haddress hend rfl hstays hrun hleft
  have hspec : left.withDefaults.spec = stored.withDefaults.spec := congrArg JobSpec.withDefaults hsame.spec
  -- The completion time that the first pass wrote is the one that every later pass goes by.
  have hcompletedLeft : left.withDefaults.currentStatus.completionTime = some completed := by
    change left.currentStatus.completionTime = some completed
    rw [hstatus, Job.completionTime_written, hcompleted]
  exact onTime_sync hkey hleft₂ (hsame.address.trans haddress) ⟨hspec ▸ hend.1, hfree₂, .inl hfinished⟩ haccepts₂
    (hsame.spec ▸ httl) ((left.withDefaults.continuedBy_closed later _).completed _ hcompletedLeft)

end Timers

/-- **The timers of a job are exact.** What is reported to be left of a deadline is nothing just if it has passed, is
enough for it to have passed, and is too much by less than a second. The passes go by it: from the deadline on a job
is brought to its end, and a pass that has nothing else to come back for comes back after that time and finds the
deadline passed. A job that is at its end with the time of its verdict known goes at the first pass at which its time
to live is over, while its deletion is not refused; a pass before that asks to come back at the very instant, and so
does every pass over what it has left. -/
theorem timers_exact :
    (∀ (job : Job) (status : JobStatus) (start now : Timestamp) (deadline : Int),
      job.spec.runPolicy.activeDeadlineSeconds = some deadline → deadline ≤ Job.longestDeadline →
      status.startTime = some start → start.nanos ≤ now.nanos →
        ∃ seconds, job.deadlineSeconds? status now = some seconds ∧
          now.RoundedUp (start.addSeconds deadline) seconds ∧
          job.deadlineSeconds? status (now.addSeconds seconds) = some 0) ∧
    (∀ (key : String) (a : Address) (stored : Job) (start now : Timestamp) (deadline : Int)
      (c : Controller MemoryStore), splitKey? key = some (a.ns, a.name) → c.store.jobs.get? a = some stored →
      stored.address = a → stored.withDefaults.spec.fault? = none → ¬ stored.withDefaults.HeldUp now c →
      stored.spec.runPolicy.activeDeadlineSeconds = some deadline → deadline ≤ Job.longestDeadline →
      stored.currentStatus.startTime.getD now = start → start.nanos ≤ now.nanos →
        MeetsDeadline key a stored (start.addSeconds deadline) now c) ∧
    ∀ (key : String) (a : Address) (stored : Job) (completed now : Timestamp) (ttl : Int)
      (c : Controller MemoryStore), splitKey? key = some (a.ns, a.name) → c.store.jobs.get? a = some stored →
      stored.address = a → stored.ReachesEnd now c → Accepts .deleteJob c →
      stored.spec.runPolicy.ttlSecondsAfterFinished = some ttl →
      (stored.withDefaults.closed now (stored.withDefaults.exceeded? (stored.withDefaults.podsIn c.store)
        (c.retries.count stored.withDefaults.key) (stored.withDefaults.takenIn now) now)).completionTime =
          some completed →
        OnTime key a (completed.addSeconds ttl) now c ∧
          ∀ outcome c' left, (sync now key).run c = (.ok outcome, c') → c'.store.jobs.get? a = some left →
            ∀ later c₂, c₂.store.jobs.get? a = some left → ¬ left.withDefaults.HeldUp later c₂ →
              Accepts .deleteJob c₂ → OnTime key a (completed.addSeconds ttl) later c₂ := by
  refine ⟨?_, ?_, ?_⟩
  · intro job status start now deadline hdeadline hlongest hstart hpast
    exact Job.deadlineSeconds?_exact hdeadline hlongest hstart hpast
  · intro key a stored start now deadline c hkey hstored haddress hvalid hfree hdeadline hlongest hstart hpast
    exact meetsDeadline_sync hkey hstored haddress hvalid hfree hdeadline hlongest hstart hpast
  · intro key a stored completed now ttl c hkey hstored haddress hend haccepts httl hcompleted
    refine ⟨onTime_sync hkey hstored haddress hend haccepts httl hcompleted, ?_⟩
    intro outcome c' left hrun hleft later c₂ hleft₂ hfree₂ haccepts₂
    exact onTime_later hkey hstored haddress hend haccepts httl hcompleted hrun hleft hleft₂ hfree₂ haccepts₂

/-- A job that started 0.3 seconds after the epoch, may be active for five seconds, and has its master at work. -/
def underDeadline : Controller MemoryStore :=
  sampleStartWith
    (sampleJob { activeDeadlineSeconds := some 5 } [(masterType, sampleType 1 .never)] (some {
      conditions := [.holding .created Reason.jobCreated "XGBoostJob iris is created." (sampleTime 0)]
      startTime := some ⟨300000000⟩ }))
    [samplePod masterType 0 "Running" none]

/-- A job that was done after half a minute and has a hundred seconds to live. -/
def underNotice : Controller MemoryStore :=
  sampleStart (sampleJob { ttlSecondsAfterFinished := some 100 } [(masterType, sampleType 1 .never)] (some {
    conditions := [.holding .created Reason.jobCreated "XGBoostJob iris is created." (sampleTime 0),
      .holding .succeeded Reason.jobSucceeded "XGBoostJob iris is successfully completed." (sampleTime 30)]
    startTime := some (sampleTime 0)
    completionTime := some (sampleTime 30) }))

/-- At 2.1 seconds the first job has 3.2 seconds left, and a pass asks for four. At 129.9 seconds the second one has a
tenth left, which is what a pass asks for, and the pass after that deletes it. -/
theorem timers_exact_underDeadline_underNotice :
    (∃ stored, underDeadline.store.jobs.get? sampleAddress = some stored ∧
      (∃ seconds, stored.deadlineSeconds? stored.currentStatus ⟨2100000000⟩ = some seconds ∧
        Timestamp.RoundedUp ⟨2100000000⟩ (Timestamp.addSeconds ⟨300000000⟩ 5) seconds ∧
        stored.deadlineSeconds? stored.currentStatus (Timestamp.addSeconds ⟨2100000000⟩ seconds) = some 0) ∧
      MeetsDeadline sampleKey sampleAddress stored (Timestamp.addSeconds ⟨300000000⟩ 5) ⟨2100000000⟩
        underDeadline) ∧
    ((sync ⟨2100000000⟩ sampleKey).run underDeadline).1.toOption = some (.requeue (.ofSeconds 4)) ∧
    OnTime sampleKey sampleAddress (sampleTime 130) ⟨129900000000⟩ underNotice ∧
    ((sync ⟨129900000000⟩ sampleKey).run underNotice).1.toOption = some (.requeue (.ofMillis 100)) ∧
    OnTime sampleKey sampleAddress (sampleTime 130) (sampleTime 130)
      ((sync ⟨129900000000⟩ sampleKey).run underNotice).2 ∧
    ((sync (sampleTime 130) sampleKey).run ((sync ⟨129900000000⟩ sampleKey).run underNotice).2).1.toOption =
      some .done := by
  refine ⟨?_, by decide +kernel, ?_⟩
  · have hstart : (underDeadline.store.jobs.get? sampleAddress).map (fun job =>
        (job.address, job.withDefaults.spec.fault?.isNone, decide (job.withDefaults.HeldUp ⟨2100000000⟩ underDeadline),
          job.spec.runPolicy.activeDeadlineSeconds, job.currentStatus.startTime)) =
        some (sampleAddress, true, false, some 5, some ⟨300000000⟩) := by decide +kernel
    obtain ⟨stored, hstored, hfound⟩ := Option.map_eq_some_iff.1 hstart
    simp only [Prod.mk.injEq, decide_eq_false_iff_not, Option.isNone_iff_eq_none] at hfound
    obtain ⟨haddress, hvalid, hfree, hdeadline, hstarted⟩ := hfound
    refine ⟨stored, hstored, ?_, ?_⟩
    · exact timers_exact.1 stored stored.currentStatus _ _ 5 hdeadline (by decide) hstarted (by decide)
    · exact timers_exact.2.1 sampleKey sampleAddress stored _ _ 5 underDeadline splitKey?_sampleKey hstored haddress
        hvalid hfree hdeadline (by decide) (by rw [hstarted]; rfl) (by decide)
  · have hstart : (underNotice.store.jobs.get? sampleAddress).map (fun job =>
        (job.address, decide (job.ReachesEnd ⟨129900000000⟩ underNotice), job.spec.runPolicy.ttlSecondsAfterFinished,
          (job.withDefaults.closed ⟨129900000000⟩ (job.withDefaults.exceeded?
            (job.withDefaults.podsIn underNotice.store) (underNotice.retries.count job.withDefaults.key)
            (job.withDefaults.takenIn ⟨129900000000⟩) ⟨129900000000⟩)).completionTime)) =
        some (sampleAddress, true, some 100, some (sampleTime 30)) := by decide +kernel
    obtain ⟨stored, hstored, hfound⟩ := Option.map_eq_some_iff.1 hstart
    simp only [Prod.mk.injEq, decide_eq_true_eq] at hfound
    obtain ⟨haddress, hend, httl, hcompleted⟩ := hfound
    have haccepts : Accepts .deleteJob underNotice := by decide +kernel
    obtain ⟨hfirst, hlater⟩ := timers_exact.2.2 sampleKey sampleAddress stored _ _ 100 underNotice splitKey?_sampleKey
      hstored haddress hend haccepts httl hcompleted
    obtain ⟨outcome, hrun⟩ : ∃ outcome, (sync ⟨129900000000⟩ sampleKey).run underNotice =
        (.ok outcome, ((sync ⟨129900000000⟩ sampleKey).run underNotice).2) := exists_run_ok (by decide +kernel)
    have hrest : (((sync ⟨129900000000⟩ sampleKey).run underNotice).2.store.jobs.get? sampleAddress).map (fun job =>
        decide (job.withDefaults.HeldUp (sampleTime 130) ((sync ⟨129900000000⟩ sampleKey).run underNotice).2)) =
          some false := by decide +kernel
    obtain ⟨left, hleft, hfree⟩ := Option.map_eq_some_iff.1 hrest
    have hsecond := hlater _ _ left hrun hleft (sampleTime 130) _ hleft (of_decide_eq_false hfree) (by decide +kernel)
    exact ⟨hfirst, by decide +kernel, hsecond, by decide +kernel⟩

end TrainingJobs
