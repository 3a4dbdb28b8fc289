/-
What a new condition does to the verdict on a job.

There is one case distinction behind all of it, `note_cases`: a new condition either says nothing new, or comes
after a failure, and then the status stays as it is; or it goes to the end of what it leaves of the history.
From there, a job has failed exactly when it had failed before or that is what is noted, and it is done
exactly when it was done before or that is noted of a job that has not failed. Nothing else that a pass does
to a status concerns the verdict.
-/
import TrainingJobs.Proofs.Resolution

set_option autoImplicit false

namespace TrainingJobs

/-- What a new condition leaves of an earlier one still speaks of the same. -/
@[simp] theorem Condition.kind_after (c : Condition) (kind : ConditionKind) : (c.after kind).kind = c.kind := by
  unfold Condition.after
  split <;> rfl

/-- A condition of kind `k` is over once one of `kind` is noted: it is of that kind itself, or the new one takes its
place, or it is `Running` and ended by a verdict. -/
def ConditionKind.EndedBy (k kind : ConditionKind) : Prop :=
  k = kind ∨ k = .running ∧ (kind = .restarting ∨ kind.isVerdict = true) ∨ k = .restarting ∧ kind = .running

instance (k kind : ConditionKind) : Decidable (k.EndedBy kind) := inferInstanceAs (Decidable (_ ∨ _ ∨ _))

/-- A condition is left and holds after a new one exactly when it held before and is not over. -/
theorem Condition.left_iff (c : Condition) (kind : ConditionKind) :
    c.supersededBy kind = false ∧ (c.after kind).status = .yes ↔ ¬ c.kind.EndedBy kind ∧ c.status = .yes := by
  unfold supersededBy after ConditionKind.EndedBy
  cases c.kind <;> cases kind <;> simp [ConditionKind.isVerdict]

namespace JobStatus

variable {s : JobStatus} {kind k : ConditionKind} {reason message : String} {now : Timestamp}

/-! ## The two cases of a new condition -/

/-- The first condition of that kind holds, for that reason. -/
def Stands (s : JobStatus) (kind : ConditionKind) (reason : String) : Prop :=
  ∃ current, s.condition? kind = some current ∧ current.status = .yes ∧ current.reason = reason

/-- The condition as it is added, since when it has held being left open. -/
def fresh (kind : ConditionKind) (reason message : String) (now : Timestamp) (since : Option Timestamp) :
    Condition :=
  { Condition.holding kind reason message now with lastTransitionTime := since }

/-- The one place where a note is opened: what it does to a status, case by case. All other lemmas about notes
rest on it. -/
theorem note_eq (s : JobStatus) (kind : ConditionKind) (reason message : String) (now : Timestamp) :
    s.note kind reason message now =
      if s.isFailed then s
      else
        match s.condition? kind with
        | none => { s with
            conditions := s.conditionsAfter kind ++ [fresh kind reason message now (some now)] }
        | some current =>
          if current.status = .yes ∧ current.reason = reason then s
          else { s with
            conditions := s.conditionsAfter kind ++ [fresh kind reason message now
              (if current.status = .yes then current.lastTransitionTime else some now)] } := rfl

/-- A new condition changes nothing when it stands already or the job has failed; else it goes to the end. -/
theorem note_cases (s : JobStatus) (kind : ConditionKind) (reason message : String) (now : Timestamp) :
    (s.isFailed = true ∨ s.Stands kind reason) ∧ s.note kind reason message now = s ∨
    (s.isFailed = false ∧ ¬ s.Stands kind reason) ∧ ∃ since, s.note kind reason message now =
      { s with conditions := s.conditionsAfter kind ++ [fresh kind reason message now since] } := by
  rw [note_eq]
  by_cases hfailed : s.isFailed
  · rw [if_pos hfailed]
    exact .inl ⟨.inl hfailed, rfl⟩
  · rw [if_neg hfailed]
    rw [Bool.not_eq_true] at hfailed
    -- An absent condition gets the time of the call; one that is there keeps or renews its own.
    rcases hcurrent : s.condition? kind with _ | current
    · refine .inr ⟨⟨hfailed, ?_⟩, some now, rfl⟩
      rintro ⟨current, hsome, -⟩
      rw [hcurrent] at hsome
      exact absurd hsome (by simp)
    · simp only
      by_cases hsame : current.status = .yes ∧ current.reason = reason
      · rw [if_pos hsame]
        exact .inl ⟨.inr ⟨current, hcurrent, hsame⟩, rfl⟩
      · rw [if_neg hsame]
        refine .inr ⟨⟨hfailed, ?_⟩, _, rfl⟩
        rintro ⟨other, hsome, hother⟩
        rw [hcurrent, Option.some.injEq] at hsome
        exact hsame (hsome ▸ hother)

/-- Nothing is noted of a job that has failed. -/
theorem note_of_failed (hs : s.isFailed = true) : s.note kind reason message now = s := by
  rw [note_eq, if_pos hs]

/-- Noting what stands already changes nothing. -/
theorem note_of_stands (h : s.Stands kind reason) : s.note kind reason message now = s := by
  obtain ⟨-, hsame⟩ | ⟨⟨-, hnot⟩, -⟩ := note_cases s kind reason message now
  · exact hsame
  · exact absurd h hnot

/-- What says something new of a job that has not failed goes to the end of what is left of the history. -/
theorem note_of_fresh (hs : s.isFailed = false) (h : ¬ s.Stands kind reason) (message : String) (now : Timestamp) :
    ∃ since, s.note kind reason message now =
      { s with conditions := s.conditionsAfter kind ++ [fresh kind reason message now since] } := by
  obtain ⟨hold, -⟩ | ⟨-, hnoted⟩ := note_cases s kind reason message now
  · rcases hold with hfailed | hstands
    · exact absurd (hs.symm.trans hfailed) Bool.false_ne_true
    · exact absurd hstands h
  · exact hnoted

/-- A condition that stands holds. -/
theorem Stands.holds (h : s.Stands kind reason) : s.holds kind = true := by
  obtain ⟨current, hcurrent, hyes, -⟩ := h
  unfold JobStatus.holds
  have hkind := List.find?_some hcurrent
  refine List.any_eq_true.2 ⟨current, List.mem_of_find?_eq_some hcurrent, ?_⟩
  rw [hyes]
  exact Bool.and_eq_true_iff.2 ⟨hkind, rfl⟩

/-! ## What is left of the history -/

/-- A condition holds if there is one of its kind with the status `True`, wherever it stands in the list. -/
theorem holds_iff : s.holds k = true ↔ ∃ c ∈ s.conditions, c.kind = k ∧ c.status = .yes := by
  unfold holds
  simp only [List.any_eq_true, Bool.and_eq_true, beq_iff_eq]

/-- What a note leaves of the history are the conditions that it does not supersede, with `Running` ended by
a verdict. -/
theorem mem_conditionsAfter {c : Condition} :
    c ∈ s.conditionsAfter kind ↔ ∃ old ∈ s.conditions, old.supersededBy kind = false ∧ old.after kind = c := by
  unfold conditionsAfter
  simp only [List.mem_map, List.mem_filter, Bool.not_eq_true', and_assoc]

/-- A kind holds among what is left of the history exactly when it did before and is not over. -/
theorem exists_conditionsAfter_iff :
    (∃ c ∈ s.conditionsAfter kind, c.kind = k ∧ c.status = .yes) ↔ s.holds k = true ∧ ¬ k.EndedBy kind := by
  rw [holds_iff]
  constructor
  · -- `left_iff` says of one condition what the statement says of the list.
    rintro ⟨c, hc, hkind, hyes⟩
    obtain ⟨old, hold, hkept, rfl⟩ := mem_conditionsAfter.1 hc
    obtain ⟨hstays, hheld⟩ := (old.left_iff kind).1 ⟨hkept, hyes⟩
    rw [Condition.kind_after] at hkind
    exact ⟨⟨old, hold, hkind, hheld⟩, hkind ▸ hstays⟩
  · rintro ⟨⟨old, hold, rfl, hheld⟩, hstays⟩
    obtain ⟨hkept, hyes⟩ := (old.left_iff kind).2 ⟨hstays, hheld⟩
    exact ⟨old.after kind, mem_conditionsAfter.2 ⟨old, hold, hkept, rfl⟩, old.kind_after kind, hyes⟩

/-- What holds after a new condition, unless that changes nothing. -/
theorem holds_note_iff_of_fresh (hs : s.isFailed = false) (h : ¬ s.Stands kind reason) :
    (s.note kind reason message now).holds k = true ↔ k = kind ∨ s.holds k = true ∧ ¬ k.EndedBy kind := by
  obtain ⟨since, hnoted⟩ := note_of_fresh hs h message now
  rw [hnoted, holds_iff, ← exists_conditionsAfter_iff]
  constructor
  · rintro ⟨c, hc, hkind, hyes⟩
    -- The new condition stands last; the others are the old ones that survive.
    rcases List.mem_append.1 hc with hc | hc
    · exact .inr ⟨c, hc, hkind, hyes⟩
    · rw [List.mem_singleton] at hc
      subst hc
      exact .inl hkind.symm
  · rintro (rfl | ⟨c, hc, hkind, hyes⟩)
    · exact ⟨_, List.mem_append_right _ List.mem_cons_self, rfl, rfl⟩
    · exact ⟨c, List.mem_append_left _ hc, hkind, hyes⟩

/-- A new condition makes no other kind hold. -/
theorem holds_of_holds_note (hne : k ≠ kind) (h : (s.note kind reason message now).holds k = true) :
    s.holds k = true := by
  obtain ⟨-, hsame⟩ | ⟨⟨hs, hfresh⟩, -⟩ := note_cases s kind reason message now
  · rw [hsame] at h
    exact h
  · exact (((holds_note_iff_of_fresh hs hfresh).1 h).resolve_left hne).1

/-- A kind that is not over holds after a new condition of another kind exactly when it held before. -/
theorem holds_note_of_not_endedBy (h : ¬ k.EndedBy kind) :
    (s.note kind reason message now).holds k = s.holds k := by
  obtain ⟨-, hsame⟩ | ⟨⟨hs, hfresh⟩, -⟩ := note_cases s kind reason message now
  · rw [hsame]
  · have hne : k ≠ kind := fun hsame => h (.inl hsame)
    rw [Bool.eq_iff_iff, holds_note_iff_of_fresh hs hfresh, or_iff_right hne, and_iff_left h]

/-- A note changes nothing about other kinds, apart from the two that exclude each other. -/
theorem holds_note_of_ne (hrunning : k ≠ .running) (hrestarting : k ≠ .restarting) (hne : k ≠ kind) :
    (s.note kind reason message now).holds k = s.holds k := by
  apply holds_note_of_not_endedBy
  rintro (h | ⟨h, -⟩ | ⟨h, -⟩)
  · exact hne h
  · exact hrunning h
  · exact hrestarting h

/-- What is noted of a job that has not failed holds. -/
theorem holds_note_self (hs : s.isFailed = false) : (s.note kind reason message now).holds kind = true := by
  by_cases h : s.Stands kind reason
  · rw [note_of_stands h]
    exact h.holds
  · exact (holds_note_iff_of_fresh hs h).2 (.inl rfl)

/-! ## The verdict -/

/-- A job has failed after a new condition exactly when it had before or the condition says so. -/
theorem isFailed_note (s : JobStatus) (kind : ConditionKind) (reason message : String) (now : Timestamp) :
    (s.note kind reason message now).isFailed = (s.isFailed || kind == .failed) := by
  by_cases hkind : kind = .failed
  · subst hkind
    rw [beq_self_eq_true, Bool.or_true]
    by_cases hs : s.isFailed
    · rw [note_of_failed hs, hs]
    · exact holds_note_self (Bool.not_eq_true _ ▸ hs)
  · rw [beq_eq_false_iff_ne.2 hkind, Bool.or_false]
    exact holds_note_of_ne (by decide) (by decide) (Ne.symm hkind)

/-- A job is done after a new condition exactly when it was before, or the condition says so of a job that has
not failed. -/
theorem isSucceeded_note (s : JobStatus) (kind : ConditionKind) (reason message : String) (now : Timestamp) :
    (s.note kind reason message now).isSucceeded = (s.isSucceeded || (!s.isFailed && kind == .succeeded)) := by
  by_cases hkind : kind = .succeeded
  · subst hkind
    rw [beq_self_eq_true, Bool.and_true]
    by_cases hs : s.isFailed
    · rw [note_of_failed hs, hs, Bool.not_true, Bool.or_false]
    · rw [Bool.not_eq_true] at hs
      rw [hs, Bool.not_false, Bool.or_true]
      exact holds_note_self hs
  · rw [beq_eq_false_iff_ne.2 hkind, Bool.and_false, Bool.or_false]
    exact holds_note_of_ne (by decide) (by decide) (Ne.symm hkind)

/-- There is a verdict after a new condition exactly when there was one before or the condition is one. -/
theorem isFinished_note (s : JobStatus) (kind : ConditionKind) (reason message : String) (now : Timestamp) :
    (s.note kind reason message now).isFinished = (s.isFinished || kind.isVerdict) := by
  unfold isFinished
  rw [isFailed_note, isSucceeded_note]
  cases s.isSucceeded <;> cases s.isFailed <;> cases kind <;> rfl

/-- What is noted of a job that has not failed stands from then on. -/
theorem stands_note (hs : s.isFailed = false) : (s.note kind reason message now).Stands kind reason := by
  by_cases hstands : s.Stands kind reason
  · rw [note_of_stands hstands]
    exact hstands
  · obtain ⟨since, hnoted⟩ := note_of_fresh hs hstands message now
    rw [hnoted]
    refine ⟨fresh kind reason message now since, ?_, rfl, rfl⟩
    -- Of the earlier conditions none is of this kind any more, so the first of the kind is the new one.
    have hnone : (s.conditionsAfter kind).find? (fun c => c.kind == kind) = none := by
      rw [List.find?_eq_none]
      intro c hc
      obtain ⟨old, -, hkept, rfl⟩ := mem_conditionsAfter.1 hc
      rw [Condition.kind_after]
      intro hsame
      simp [Condition.supersededBy, hsame] at hkept
    unfold condition?
    rw [List.find?_append, hnone, Option.none_or, List.find?_cons_of_pos (by exact beq_self_eq_true kind)]

/-- Counting the active replicas as succeeded is no verdict. -/
theorem isFailed_settled (s : JobStatus) : s.settled.isFailed = s.isFailed := by
  unfold settled
  split <;> rfl

theorem isSucceeded_settled (s : JobStatus) : s.settled.isSucceeded = s.isSucceeded := by
  unfold settled
  split <;> rfl

end JobStatus

namespace Job

variable {job : Job} {now : Timestamp}

/-- Taking a job in gives no verdict either. -/
theorem isFailed_takenIn (job : Job) (now : Timestamp) :
    (job.takenIn now).isFailed = job.currentStatus.isFailed := by
  unfold takenIn
  simp only
  split
  · rfl
  · rw [JobStatus.isFailed_note]
    exact Bool.or_false _

theorem isSucceeded_takenIn (job : Job) (now : Timestamp) :
    (job.takenIn now).isSucceeded = job.currentStatus.isSucceeded := by
  unfold takenIn
  simp only
  split
  · rfl
  · rw [JobStatus.isSucceeded_note, show (ConditionKind.created == .succeeded) = false from rfl, Bool.and_false,
      Bool.or_false]
    rfl

theorem isFinished_takenIn (job : Job) (now : Timestamp) :
    (job.takenIn now).isFinished = job.currentStatus.isFinished := by
  unfold JobStatus.isFinished
  rw [isFailed_takenIn, isSucceeded_takenIn]

/-- A job that is brought to its end has failed if it is given up, and if it had failed before. -/
theorem isFailed_closed (job : Job) (now : Timestamp) (failure : Option String) :
    (job.closed now failure).isFailed = (job.currentStatus.isFailed || failure.isSome) := by
  unfold closed
  rw [JobStatus.isFailed_settled]
  cases failure with
  | none => exact (isFailed_takenIn job now).trans (Bool.or_false _).symm
  | some message =>
    change (((job.takenIn now).complete now).note _ _ _ _).isFailed = _
    rw [JobStatus.isFailed_note, beq_self_eq_true, Bool.or_true]
    exact (Bool.or_true _).symm

/-- Closing a job never makes it a success: at most it is failed. -/
theorem isSucceeded_closed (job : Job) (now : Timestamp) (failure : Option String) :
    (job.closed now failure).isSucceeded = job.currentStatus.isSucceeded := by
  unfold closed
  rw [JobStatus.isSucceeded_settled]
  cases failure with
  | none => exact isSucceeded_takenIn job now
  | some message =>
    change (((job.takenIn now).complete now).note _ _ _ _).isSucceeded = _
    rw [JobStatus.isSucceeded_note, show (ConditionKind.failed == .succeeded) = false from rfl, Bool.and_false,
      Bool.or_false]
    exact isSucceeded_takenIn job now

/-- A job that is brought to its end has a verdict if it had one or is given up. -/
theorem isFinished_closed (job : Job) (now : Timestamp) (failure : Option String) :
    (job.closed now failure).isFinished = (job.currentStatus.isFinished || failure.isSome) := by
  unfold JobStatus.isFinished
  rw [isSucceeded_closed, isFailed_closed, ← Bool.or_assoc]

/-- Writing a status leaves the job with the verdict of that status. -/
theorem verdict_written (job : Job) (now : Timestamp) (status : JobStatus) :
    ((job.written now status).statusAfter job.currentStatus).isSucceeded = status.isSucceeded ∧
      ((job.written now status).statusAfter job.currentStatus).isFailed = status.isFailed := by
  unfold written
  split
  · exact ⟨rfl, rfl⟩
  · next h =>
    rw [Decidable.not_not.1 h]
    exact ⟨rfl, rfl⟩

/-- Whether it is written or known already, a job is finished afterwards if the status says so. -/
theorem isFinished_written (job : Job) (now : Timestamp) (status : JobStatus) :
    ((job.written now status).statusAfter job.currentStatus).isFinished = status.isFinished := by
  obtain ⟨hsucceeded, hfailed⟩ := verdict_written job now status
  unfold JobStatus.isFinished
  rw [hsucceeded, hfailed]

/-- The time to live of a job with that status is over. -/
def Expired (job : Job) (now : Timestamp) (status : JobStatus) : Prop :=
  ∃ remaining, job.timeToLive? status now = some remaining ∧ remaining ≤ 0

/-- A job whose time to live is over is removed. -/
theorem ended_of_expired {status : JobStatus} (h : job.Expired now status) :
    job.ended now status = .removed := by
  obtain ⟨remaining, hremaining, hover⟩ := h
  unfold ended
  rw [hremaining]
  exact if_neg (Int.not_lt.2 hover)

/-- A job that may still live has its status written. -/
theorem ended_of_not_expired {status : JobStatus} (h : ¬ job.Expired now status) :
    job.ended now status = job.written now status := by
  unfold ended
  rcases hremaining : job.timeToLive? status now with _ | remaining
  · rfl
  · exact if_pos (Int.not_le.1 fun hover => h ⟨remaining, hremaining, hover⟩)

/-- The job goes over a limit at a look at it, and is given up rather than deleted. -/
def GivenUp (job : Job) (now : Timestamp) (pods : List Pod) (retries : Nat) : Prop :=
  ∃ message, job.exceeded? pods retries (job.takenIn now) now = some message ∧
    ¬ job.Expired now (job.closed now (some message))

section GivenUp

variable {pods : List Pod} {retries : Nat}

/-- A job that is over no limit is not given up. -/
theorem not_givenUp_of_within (h : job.exceeded? pods retries (job.takenIn now) now = none) :
    ¬ job.GivenUp now pods retries := by
  rintro ⟨message, hover, -⟩
  rw [h] at hover
  exact absurd hover (by simp)

/-- A job that is over a limit is given up unless it is deleted at once. -/
theorem givenUp_iff_of_over {message : String} (h : job.exceeded? pods retries (job.takenIn now) now = some message) :
    job.GivenUp now pods retries ↔ ¬ job.Expired now (job.closed now (some message)) := by
  unfold GivenUp
  rw [h]
  simp only [Option.some.injEq, exists_eq_left']

end GivenUp

end Job

end TrainingJobs
