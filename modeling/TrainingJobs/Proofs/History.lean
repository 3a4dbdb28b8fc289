/-
The conditions of a job as a history.

However a job is spoken of, and for whatever reasons, its conditions stay a readable account of it: one condition
for each kind, `Running` and `Restarting` never side by side, and no failed job that is said to run
(`JobStatus.Coherent`). A new condition goes to the end, and what it does not take the place of stands in the old
order as it was, except that a verdict ends `Running`. So `Created`, `Succeeded` and `Failed` are never lost, and a
failure is the last entry there will be. **`history_coherent`** says all of this for every sequence of remarks,
beginning with no condition at all.
-/
import Mathlib.Data.List.Forall2
import TrainingJobs.Proofs.Conditions

set_option autoImplicit false

namespace TrainingJobs

/-- What is said of a job at one time. -/
structure Remark where
  kind : ConditionKind
  reason : String
  message : String
  now : Timestamp
  deriving DecidableEq

/-- What a condition of kind `kind` may leave of an earlier one: all of it, and of `Running`, after a verdict, that it
is over. -/
def Condition.LeftBy (kind : ConditionKind) (old left : Condition) : Prop :=
  left = old ∨ kind.isVerdict = true ∧ old.kind = .running ∧ left = { old with status := .no }

/-- What a note leaves of a condition is the condition itself or `Running`, ended by a verdict. -/
theorem Condition.leftBy_after (c : Condition) (kind : ConditionKind) : Condition.LeftBy kind c (c.after kind) := by
  unfold after
  split
  · next h => exact .inr ⟨h.1, h.2, rfl⟩
  · exact .inl rfl

/-- A condition of kind `k` gives its place to one of `kind`. -/
def ConditionKind.GivesWayTo (k kind : ConditionKind) : Prop :=
  k = kind ∨ k = .running ∧ kind = .restarting ∨ k = .restarting ∧ kind = .running

/-- A condition stays unless its kind gives way to the new one. -/
theorem Condition.supersededBy_eq_false_iff (c : Condition) (kind : ConditionKind) :
    c.supersededBy kind = false ↔ ¬ c.kind.GivesWayTo kind := by
  unfold supersededBy ConditionKind.GivesWayTo
  cases c.kind <;> cases kind <;> decide

namespace JobStatus

variable {s : JobStatus} {k kind : ConditionKind} {reason message : String} {now : Timestamp}

/-- What the conditions speak of, the oldest first. -/
def kinds (s : JobStatus) : List ConditionKind := s.conditions.map Condition.kind

/-- The status after all of the remarks. -/
def noteAll (s : JobStatus) (remarks : List Remark) : JobStatus :=
  remarks.foldl (fun s r => s.note r.kind r.reason r.message r.now) s

/-! ## One remark -/

/-- Ending `Running` does not change of which kinds the conditions are. -/
theorem kinds_conditionsAfter (s : JobStatus) (kind : ConditionKind) :
    (s.conditionsAfter kind).map Condition.kind =
      (s.conditions.filter fun c => !c.supersededBy kind).map Condition.kind := by
  unfold conditionsAfter
  simp only [List.map_map, Function.comp_def, Condition.kind_after]

/-- A kind is left in the history exactly when it was in it and does not give way. -/
theorem mem_kinds_conditionsAfter :
    k ∈ (s.conditionsAfter kind).map Condition.kind ↔ k ∈ s.kinds ∧ ¬ k.GivesWayTo kind := by
  unfold kinds
  simp only [List.mem_map, mem_conditionsAfter]
  constructor
  · rintro ⟨_, ⟨old, hold, hkept, rfl⟩, rfl⟩
    rw [Condition.kind_after]
    exact ⟨⟨old, hold, rfl⟩, (old.supersededBy_eq_false_iff kind).1 hkept⟩
  · rintro ⟨⟨old, hold, rfl⟩, hstays⟩
    exact ⟨_, ⟨old, hold, (old.supersededBy_eq_false_iff kind).2 hstays, rfl⟩, old.kind_after kind⟩

/-- A note that is taken puts its kind at the end, and drops those that give way to it. -/
theorem kinds_note_of_eq {since : Option Timestamp} (h : s.note kind reason message now =
      { s with conditions := s.conditionsAfter kind ++ [fresh kind reason message now since] }) :
    (s.note kind reason message now).kinds = (s.conditionsAfter kind).map Condition.kind ++ [kind] := by
  rw [h]
  exact List.map_append

/-- Only the two passing states of a job at work are ever taken out of the history. -/
theorem mem_kinds_note_of_ne (hrunning : k ≠ .running) (hrestarting : k ≠ .restarting) (hk : k ∈ s.kinds) :
    k ∈ (s.note kind reason message now).kinds := by
  obtain ⟨-, hnoted⟩ | ⟨-, since, hnoted⟩ := note_cases s kind reason message now
  · rw [hnoted]
    exact hk
  · rw [kinds_note_of_eq hnoted, List.mem_append, List.mem_singleton, mem_kinds_conditionsAfter]
    by_cases hsame : k = kind
    · exact .inr hsame
    · -- A kind leaves the list by being noted again, or as `Running` or `Restarting`.
      refine .inl ⟨hk, ?_⟩
      rintro (h | ⟨h, -⟩ | ⟨h, -⟩)
      · exact hsame h
      · exact hrunning h
      · exact hrestarting h

/-- What is left of the history stands in the old order. -/
theorem forall₂_conditionsAfter (s : JobStatus) (kind : ConditionKind) :
    List.Forall₂ (Condition.LeftBy kind) (s.conditions.filter fun c => !c.supersededBy kind)
      (s.conditionsAfter kind) := by
  unfold conditionsAfter
  rw [List.forall₂_map_right_iff, List.forall₂_same]
  intro c _
  exact c.leftBy_after kind

/-! ## A readable account -/

/-- The conditions are a readable account of the job. -/
structure Coherent (s : JobStatus) : Prop where
  /-- There is one condition of a kind at most. -/
  once : s.kinds.Nodup
  /-- A job is not said to run and to be restarted. -/
  apart : ¬ (ConditionKind.running ∈ s.kinds ∧ ConditionKind.restarting ∈ s.kinds)
  /-- A job that has failed does not run. -/
  ended : s.isFailed = true → s.holds .running = false

/-- A history without conditions is coherent. -/
theorem coherent_empty : Coherent {} where
  once := List.nodup_nil
  apart := fun h => absurd h.1 List.not_mem_nil
  ended := fun _ => rfl

/-- **A remark leaves the account readable.** -/
theorem Coherent.note (h : s.Coherent) (kind : ConditionKind) (reason message : String) (now : Timestamp) :
    (s.note kind reason message now).Coherent := by
  obtain ⟨-, hnoted⟩ | ⟨⟨hs, hfresh⟩, since, hnoted⟩ := note_cases s kind reason message now
  · rw [hnoted]
    exact h
  · have hkinds := kinds_note_of_eq hnoted
    refine ⟨?_, ?_, ?_⟩
    · rw [hkinds]
      refine List.nodup_append.2 ⟨?_, List.pairwise_singleton _ kind, ?_⟩
      · rw [kinds_conditionsAfter]
        exact h.once.sublist (List.filter_sublist.map _)
      · intro k hk new hnew hsame
        rw [List.mem_singleton] at hnew
        exact (mem_kinds_conditionsAfter.1 hk).2 (.inl (hsame.trans hnew))
    · -- The newest of the two would have taken the place of the other.
      rw [hkinds]
      simp only [List.mem_append, List.mem_singleton, mem_kinds_conditionsAfter]
      rintro ⟨⟨hrunning, hruns⟩ | rfl, ⟨hrestarting, hrestarts⟩ | hkind⟩
      · exact h.apart ⟨hrunning, hrestarting⟩
      · exact hruns (.inr (.inl ⟨rfl, hkind.symm⟩))
      · exact hrestarts (.inr (.inr ⟨rfl, rfl⟩))
      · exact ConditionKind.noConfusion hkind
    · intro hfailed
      rw [isFailed_note, hs, Bool.false_or, beq_iff_eq] at hfailed
      subst hfailed
      rw [← Bool.not_eq_true, holds_note_iff_of_fresh hs hfresh]
      rintro (hkind | ⟨-, hstays⟩)
      · exact ConditionKind.noConfusion hkind
      · exact hstays (by decide)

/-! ## Any sequence of remarks -/

variable {remarks : List Remark}

/-- By induction on the remarks, so is every history that comes of it. -/
theorem Coherent.noteAll (h : s.Coherent) : (s.noteAll remarks).Coherent := by
  induction remarks generalizing s with
  | nil => exact h
  | cons r rest ih => exact ih (h.note r.kind r.reason r.message r.now)

/-- Kinds other than the two that exclude each other never go again. -/
theorem mem_kinds_noteAll_of_ne (hrunning : k ≠ .running) (hrestarting : k ≠ .restarting) (hk : k ∈ s.kinds) :
    k ∈ (s.noteAll remarks).kinds := by
  induction remarks generalizing s with
  | nil => exact hk
  | cons r rest ih => exact ih (mem_kinds_note_of_ne hrunning hrestarting hk)

/-- Nothing is said any more of a job that has failed. -/
theorem noteAll_of_failed (hs : s.isFailed = true) : s.noteAll remarks = s := by
  induction remarks with
  | nil => rfl
  | cons r rest ih =>
    unfold noteAll
    rw [List.foldl_cons, note_of_failed hs]
    exact ih

/-- **The conditions stay a readable account of the job, whatever is said of it.** Created, done and failed are never
lost and nothing follows a failure. A remark that says something new goes to the end of what it leaves of the
history, which stands in the old order; any other leaves all as it is. -/
theorem history_coherent (remarks later : List Remark) (r : Remark) :
    (JobStatus.noteAll {} remarks).Coherent ∧
      (∀ k, k = .created ∨ k = .succeeded ∨ k = .failed → k ∈ (JobStatus.noteAll {} remarks).kinds →
        k ∈ (JobStatus.noteAll {} (remarks ++ later)).kinds) ∧
      ((JobStatus.noteAll {} remarks).isFailed = true →
        JobStatus.noteAll {} (remarks ++ later) = JobStatus.noteAll {} remarks) ∧
      (((JobStatus.noteAll {} remarks).isFailed = true ∨ (JobStatus.noteAll {} remarks).Stands r.kind r.reason) ∧
          JobStatus.noteAll {} (remarks ++ [r]) = JobStatus.noteAll {} remarks ∨
        ∃ kept since, (JobStatus.noteAll {} (remarks ++ [r])).conditions =
            kept ++ [fresh r.kind r.reason r.message r.now since] ∧
          List.Forall₂ (Condition.LeftBy r.kind)
            ((JobStatus.noteAll {} remarks).conditions.filter fun c => !c.supersededBy r.kind) kept) := by
  -- What comes later is a run from the status that the first remarks leave.
  have hlater : ∀ more, JobStatus.noteAll {} (remarks ++ more) =
      (JobStatus.noteAll {} remarks).noteAll more := by
    intro more
    exact List.foldl_append
  refine ⟨coherent_empty.noteAll, ?_, ?_, ?_⟩
  · intro k hk hmem
    rw [hlater]
    obtain ⟨hrunning, hrestarting⟩ : k ≠ .running ∧ k ≠ .restarting := by
      rcases hk with rfl | rfl | rfl <;> decide
    exact mem_kinds_noteAll_of_ne hrunning hrestarting hmem
  · intro hfailed
    rw [hlater]
    exact noteAll_of_failed hfailed
  · rw [hlater]
    obtain ⟨hold, hnoted⟩ | ⟨-, since, hnoted⟩ :=
      note_cases (JobStatus.noteAll {} remarks) r.kind r.reason r.message r.now
    · exact .inl ⟨hold, hnoted⟩
    · exact .inr ⟨_, since, congrArg JobStatus.conditions hnoted, forall₂_conditionsAfter _ r.kind⟩

/-- A job that ran, was restarted and ran again is given up: what was said of it before is left of it, it runs no
longer, and its end is not spoken of. -/
def sampleRemarks : List Remark :=
  [⟨.created, "JobCreated", "", ⟨0⟩⟩, ⟨.running, "JobRunning", "", ⟨1⟩⟩,
    ⟨.restarting, "JobRestarting", "", ⟨2⟩⟩, ⟨.running, "JobRunning", "", ⟨3⟩⟩,
    ⟨.failed, "JobFailed", "", ⟨4⟩⟩]

/-- Of five remarks three conditions are left, and a success after the failure is not taken. -/
theorem history_coherent_sampleRemarks :
    (JobStatus.noteAll {} sampleRemarks).kinds = [.created, .running, .failed] ∧
      (JobStatus.noteAll {} sampleRemarks).holds .running = false ∧
      JobStatus.noteAll {} (sampleRemarks ++ [⟨.succeeded, "JobSucceeded", "", ⟨5⟩⟩]) =
        JobStatus.noteAll {} sampleRemarks := by
  obtain ⟨hcoherent, -, hend, -⟩ :=
    history_coherent sampleRemarks [⟨.succeeded, "JobSucceeded", "", ⟨5⟩⟩] ⟨.created, "JobCreated", "", ⟨0⟩⟩
  have hfailed : (JobStatus.noteAll {} sampleRemarks).isFailed = true := by decide
  exact ⟨by decide, hcoherent.ended hfailed, hend hfailed⟩

end JobStatus

end TrainingJobs
