/-
When a job is past a limit.

There are two limits, and they are looked at one after the other: the backoff limit, which failed pods or
restarts in place can use up, and the deadline, which time alone does. The first hangs on the pods that are
listed, the second on nothing but the stored job and the clock, so once passed it stays passed.
-/
import TrainingJobs.Proofs.Conditions

set_option autoImplicit false

namespace TrainingJobs

namespace JobStatus

@[simp] theorem startTime_note (s : JobStatus) (kind : ConditionKind) (reason message : String)
    (now : Timestamp) : (s.note kind reason message now).startTime = s.startTime := by
  obtain ⟨-, h⟩ | ⟨-, since, h⟩ := note_cases s kind reason message now <;> rw [h]

end JobStatus

namespace Job

variable {job : Job} {now : Timestamp} {pods : List Pod} {retries : Nat} {status : JobStatus}

/-- The job has used up its retries. -/
def PastBackoff (job : Job) (pods : List Pod) (retries : Nat) : Prop :=
  ∃ limit, job.spec.runPolicy.backoffLimit = some limit ∧
    (job.failuresPastLimit pods retries limit = true ∨ job.restartsPastLimit pods limit = true)

/-- The job has been active for longer than it may. -/
def PastDeadline (job : Job) (now : Timestamp) : Prop := job.deadlineSeconds? (job.takenIn now) now = some 0

/-- A job is past no limit when it has retries left and its deadline has not passed. -/
theorem exceeded?_eq_none_iff :
    job.exceeded? pods retries (job.takenIn now) now = none ↔
      ¬ job.PastBackoff pods retries ∧ ¬ job.PastDeadline now := by
  unfold exceeded? PastBackoff PastDeadline
  -- Without a limit only the deadline is left to ask about.
  rcases job.spec.runPolicy.backoffLimit with _ | limit
  · simp
  · simp only [Option.some.injEq, exists_eq_left', ← Bool.or_eq_true]
    split
    · next h => exact iff_of_false (by simp) fun hnot => hnot.1 h
    · next h =>
      split
      · next hdeadline => exact iff_of_false (by simp) fun hnot => hnot.2 hdeadline
      · next hdeadline => exact iff_of_true rfl ⟨h, hdeadline⟩

/-- A job is over a limit if it is past its backoff limit or past its deadline. -/
theorem exceeded?_isSome_iff :
    (job.exceeded? pods retries (job.takenIn now) now).isSome = true ↔
      job.PastBackoff pods retries ∨ job.PastDeadline now := by
  rw [Option.isSome_iff_ne_none, Ne, exceeded?_eq_none_iff, Classical.not_and_iff_not_or_not, Classical.not_not,
    Classical.not_not]

/-- Whether the retries are used up hangs on what is asked for and what was counted. -/
theorem pastBackoff_congr {job' : Job} (hspec : job'.spec = job.spec)
    (hstatus : job'.currentStatus = job.currentStatus) :
    job'.PastBackoff pods retries ↔ job.PastBackoff pods retries := by
  unfold PastBackoff failuresPastLimit restartsPastLimit restartsInPlace totalReplicas
  rw [hspec, hstatus]

/-! ## The deadline -/

/-- A job that is taken in has a start, its old one or this instant. -/
theorem startTime_takenIn (job : Job) (now : Timestamp) :
    (job.takenIn now).startTime = some (job.currentStatus.startTime.getD now) := by
  unfold takenIn
  simp only
  split
  · rfl
  · rw [JobStatus.startTime_note]

/-- The deadline has passed when as many whole seconds have since the start. -/
theorem pastDeadline_iff : job.PastDeadline now ↔ ∃ deadline,
    job.spec.runPolicy.activeDeadlineSeconds = some deadline ∧
      deadline ≤ now.wholeSecondsSince (job.currentStatus.startTime.getD now) := by
  unfold PastDeadline deadlineSeconds?
  rw [startTime_takenIn]
  rcases job.spec.runPolicy.activeDeadlineSeconds with _ | deadline
  · simp
  · simp only [Option.bind_eq_bind, Option.bind_some, Option.some.injEq, exists_eq_left']
    generalize now.wholeSecondsSince (job.currentStatus.startTime.getD now) = elapsed
    -- The bound on what is left is positive, so it does not turn a deadline to come into one that has passed.
    have hlongest : longestDeadline = 9223372036854775807 := rfl
    split
    · omega
    · omega

/-- Of a job only the spec and the status matter for its deadline. -/
theorem pastDeadline_congr {job' : Job} (hspec : job'.spec = job.spec)
    (hstatus : job'.currentStatus = job.currentStatus) : job'.PastDeadline now ↔ job.PastDeadline now := by
  rw [pastDeadline_iff, pastDeadline_iff, hspec, hstatus]

/-- A deadline that has passed stays passed. -/
theorem PastDeadline.mono {later : Timestamp} (h : job.PastDeadline now) (hlater : now.nanos ≤ later.nanos) :
    job.PastDeadline later := by
  rw [pastDeadline_iff] at h ⊢
  obtain ⟨deadline, hdeadline, hpassed⟩ := h
  refine ⟨deadline, hdeadline, Int.le_trans hpassed ?_⟩
  unfold Timestamp.wholeSecondsSince
  refine Int.tdiv_le_tdiv (by decide) ?_
  -- A job that was never started counts as started now, whenever that is.
  cases job.currentStatus.startTime with
  | none => simp only [Option.getD_none]; omega
  | some start => simp only [Option.getD_some]; omega

end Job

end TrainingJobs
