/-
Since when a condition has had its status.

A condition carries the time of its last transition, and a remark that only gives a new reason leaves that time as it
was. So it tells when the status changed last, whatever was said of the job before and in between, **with one
exception**: a verdict ends `Running`, but leaves the time at which the job began to run on it. From then on the
condition says that the job does not run, and has not since it began to. `transition_times_right_iff` says that this is
the only way for the time to be wrong.
-/
import Mathlib.Data.List.Induction
import Mathlib.Data.List.Nodup
import TrainingJobs.Proofs.History

set_option autoImplicit false

namespace TrainingJobs

namespace JobStatus

variable {s : JobStatus} {k kind : ConditionKind} {reason message : String} {now : Timestamp}

/-! ## Status changes -/

/-- The status of the condition of that kind, if there is such a condition. -/
def standing (s : JobStatus) (k : ConditionKind) : Option ConditionStatus := (s.condition? k).map Condition.status

/-- The times of the remarks by which the condition of that kind comes up, goes, or changes its status, in their
order. -/
def changeTimes (k : ConditionKind) : JobStatus → List Remark → List Timestamp
  | _, [] => []
  | s, r :: rest =>
    let next := s.note r.kind r.reason r.message r.now
    if next.standing k = s.standing k then changeTimes k next rest else r.now :: changeTimes k next rest

/-- The last of several remarks is noted after the others. -/
theorem noteAll_append_singleton (s : JobStatus) (remarks : List Remark) (r : Remark) :
    s.noteAll (remarks ++ [r]) = (s.noteAll remarks).note r.kind r.reason r.message r.now := by
  unfold noteAll
  rw [List.foldl_append]
  rfl

/-- One more remark is one more change, if it is one. -/
theorem changeTimes_append_singleton (k : ConditionKind) (s : JobStatus) (remarks : List Remark) (r : Remark) :
    changeTimes k s (remarks ++ [r]) = changeTimes k s remarks ++
      if (s.noteAll (remarks ++ [r])).standing k = (s.noteAll remarks).standing k then [] else [r.now] := by
  induction remarks generalizing s with
  | nil => rfl
  | cons first rest ih =>
    have hlater := ih (s.note first.kind first.reason first.message first.now)
    simp only [List.cons_append, changeTimes]
    split
    · exact hlater
    · exact congrArg (first.now :: ·) hlater

/-- A condition changes at the time of some remark. -/
theorem mem_changeTimes {t : Timestamp} {remarks : List Remark} (h : t ∈ changeTimes k s remarks) :
    ∃ r ∈ remarks, r.now = t := by
  induction remarks generalizing s with
  | nil => exact absurd h List.not_mem_nil
  | cons r rest ih =>
    rw [changeTimes] at h
    split at h
    · exact (ih h).imp fun _ hr => ⟨List.mem_cons_of_mem _ hr.1, hr.2⟩
    · rcases List.mem_cons.1 h with rfl | h
      · exact ⟨r, List.mem_cons_self, rfl⟩
      · exact (ih h).imp fun _ hr => ⟨List.mem_cons_of_mem _ hr.1, hr.2⟩

/-- The condition that is found is of the kind that was looked for. -/
theorem kind_of_condition? {c : Condition} (h : s.condition? k = some c) : c.kind = k := by
  have hfound := List.find?_some h
  exact beq_iff_eq.1 hfound

/-- Where there is one condition of a kind, it is the one that is looked up. -/
theorem Coherent.condition?_of_mem (h : s.Coherent) {c : Condition} (hc : c ∈ s.conditions) :
    s.condition? c.kind = some c := by
  obtain ⟨found, hfound⟩ : ∃ found, s.condition? c.kind = some found :=
    Option.isSome_iff_exists.1 (List.find?_isSome.2 ⟨c, hc, beq_self_eq_true _⟩)
  rw [hfound, List.inj_on_of_nodup_map h.once (List.mem_of_find?_eq_some hfound) hc (kind_of_condition? hfound)]

/-- In a coherent history a kind stands as its one condition says. -/
theorem Coherent.standing_of_mem (h : s.Coherent) {c : Condition} (hc : c ∈ s.conditions) :
    s.standing c.kind = some c.status := by
  unfold standing
  rw [h.condition?_of_mem hc]
  rfl

end JobStatus

/-! ## Times that are right, and times that are not -/

namespace Condition

/-- The condition tells the time of the last of these changes. -/
def Dated (c : Condition) (changes : List Timestamp) : Prop :=
  ∃ t, c.lastTransitionTime = some t ∧ changes.getLast? = some t

/-- The condition tells an earlier time than that of the last of these changes. -/
def Outdated (c : Condition) (changes : List Timestamp) : Prop :=
  ∃ told changed, c.lastTransitionTime = some told ∧ changes.getLast? = some changed ∧ told.nanos < changed.nanos

/-- A condition that holds tells when it came to hold, and one that does not is `Running`, and tells when it came to
hold before it ended. -/
def Accounts (c : Condition) (changes : List Timestamp) : Prop :=
  c.status = .yes ∧ c.Dated changes ∨ (c.kind = .running ∧ c.status = .no) ∧ c.Outdated changes

instance (c : Condition) (changes : List Timestamp) : Decidable (c.Dated changes) :=
  decidable_of_iff (c.lastTransitionTime.isSome = true ∧ changes.getLast? = c.lastTransitionTime) <| by
    unfold Dated
    cases c.lastTransitionTime <;> simp

variable {c : Condition} {changes : List Timestamp}

/-- A condition cannot be both. -/
theorem Outdated.not_dated (h : c.Outdated changes) : ¬ c.Dated changes := by
  rintro ⟨t, htold, hlast⟩
  obtain ⟨told, changed, htold', hlast', hlt⟩ := h
  cases htold.symm.trans htold'
  cases hlast.symm.trans hlast'
  exact Int.lt_irrefl _ hlt

/-- The time is wrong exactly where `Running` has ended. -/
theorem Accounts.dated_iff (h : c.Accounts changes) :
    c.Dated changes ↔ ¬ (c.kind = .running ∧ c.status = .no) := by
  obtain ⟨hyes, hdated⟩ | ⟨hended, houtdated⟩ := h
  · refine iff_of_true hdated fun hended => ?_
    rw [hyes] at hended
    exact ConditionStatus.noConfusion hended.2
  · exact iff_of_false houtdated.not_dated (not_not_intro hended)

end Condition

namespace JobStatus

variable {s : JobStatus} {kind : ConditionKind} {reason message : String} {now : Timestamp} {remarks : List Remark}
  {r : Remark}

/-- What a remark leaves of an earlier condition accounts for it as before: either it is as it was, or it is `Running`
and ends now. -/
theorem accounts_after (hcoherent : (noteAll {} remarks).Coherent) {old : Condition}
    (hold : old ∈ (noteAll {} remarks).conditions) (haccounts : old.Accounts (changeTimes old.kind {} remarks))
    (hleft : old.after r.kind ∈ (noteAll {} (remarks ++ [r])).conditions)
    (hlater : ∀ earlier ∈ remarks, earlier.now.nanos < r.now.nanos) :
    (old.after r.kind).Accounts (changeTimes old.kind {} (remarks ++ [r])) := by
  have hnext : (noteAll {} (remarks ++ [r])).Coherent := coherent_empty.noteAll
  have hbefore := hcoherent.standing_of_mem hold
  have hafter := hnext.standing_of_mem hleft
  rw [Condition.kind_after] at hafter
  rw [changeTimes_append_singleton, hbefore, hafter]
  obtain hsame | ⟨-, hrunning, hended⟩ := old.leftBy_after r.kind
  · rw [hsame, if_pos rfl, List.append_nil]
    exact haccounts
  · rw [hended]
    obtain ⟨hyes, t, htold, hlast⟩ | ⟨⟨-, hno⟩, houtdated⟩ := haccounts
    · -- The job ran until now, and its time is that of an earlier remark.
      obtain ⟨earlier, hearlier, rfl⟩ := mem_changeTimes (List.mem_of_getLast? hlast)
      have hends : some ConditionStatus.no ≠ some ConditionStatus.yes := by decide
      rw [hyes, if_neg hends]
      exact .inr ⟨⟨hrunning, rfl⟩, earlier.now, r.now, htold, List.getLast?_concat, hlater earlier hearlier⟩
    · rw [hno, if_pos rfl, List.append_nil]
      exact .inr ⟨⟨hrunning, rfl⟩, houtdated⟩

/-- Since when the status is what a new condition of that kind says. -/
def since (s : JobStatus) (kind : ConditionKind) (now : Timestamp) : Option Timestamp :=
  match s.condition? kind with
  | none => some now
  | some current => if current.status = .yes then current.lastTransitionTime else some now

/-- A note that says something new gives the condition the time of now, or that of the condition before it if the
status is the same. -/
theorem note_eq_of_fresh (hs : s.isFailed = false) (h : ¬ s.Stands kind reason) :
    s.note kind reason message now =
      { s with conditions := s.conditionsAfter kind ++ [fresh kind reason message now (s.since kind now)] } := by
  rw [note_eq, hs, if_neg Bool.false_ne_true, since]
  rcases hcurrent : s.condition? kind with _ | current
  · rfl
  · exact if_neg fun hsame => h ⟨current, hcurrent, hsame⟩

/-- A remark that says something new goes on with the time of the condition that it takes the place of if that one
holds, and tells its own time if it does not. -/
theorem accounts_fresh
    (haccounts : ∀ c ∈ (noteAll {} remarks).conditions, c.Accounts (changeTimes c.kind {} remarks))
    {c : Condition} (hc : c ∈ (noteAll {} (remarks ++ [r])).conditions) (hkind : c.kind = r.kind)
    (hyes : c.status = .yes)
    (hsince : c.lastTransitionTime = (noteAll {} remarks).since r.kind r.now) :
    c.Accounts (changeTimes r.kind {} (remarks ++ [r])) := by
  have hnext : (noteAll {} (remarks ++ [r])).Coherent := coherent_empty.noteAll
  have hafter := hnext.standing_of_mem hc
  rw [hkind, hyes] at hafter
  rw [changeTimes_append_singleton, hafter]
  refine .inl ⟨hyes, ?_⟩
  have hchanged : ∀ changes : List Timestamp, c.lastTransitionTime = some r.now → c.Dated (changes ++ [r.now]) :=
    fun changes hnow => ⟨r.now, hnow, List.getLast?_concat⟩
  unfold since at hsince
  rcases hcurrent : (noteAll {} remarks).condition? r.kind with _ | current
  · rw [hcurrent] at hsince
    rw [standing, hcurrent, if_neg (by simp)]
    exact hchanged _ hsince
  · simp only [hcurrent] at hsince
    rw [standing, hcurrent, Option.map_some]
    by_cases hheld : current.status = .yes
    · -- It held before, for another reason, so this is no change.
      have hmem := List.mem_of_find?_eq_some hcurrent
      have hsame : current.kind = r.kind := kind_of_condition? hcurrent
      obtain ⟨-, hdated⟩ | ⟨⟨-, hno⟩, -⟩ := haccounts current hmem
      · rw [if_pos hheld] at hsince
        rw [hheld, if_pos rfl, List.append_nil]
        unfold Condition.Dated
        rw [hsince, ← hsame]
        exact hdated
      · exact absurd (hheld.symm.trans hno) (by decide)
    · rw [if_neg hheld] at hsince
      rw [if_neg fun heq => hheld (Option.some.inj heq).symm]
      exact hchanged _ hsince

/-- Whatever is said at later and later times, every condition accounts for the changes of its status. -/
theorem accounts_noteAll (hlater : remarks.Pairwise fun r r' => r.now.nanos < r'.now.nanos) :
    ∀ c ∈ (noteAll {} remarks).conditions, c.Accounts (changeTimes c.kind {} remarks) := by
  induction remarks using List.reverseRecOn with
  | nil => exact fun c hc => absurd hc List.not_mem_nil
  | append_singleton remarks r ih =>
    obtain ⟨hearlier, -, hlast⟩ := List.pairwise_append.1 hlater
    have hlast : ∀ earlier ∈ remarks, earlier.now.nanos < r.now.nanos := fun earlier h =>
      hlast earlier h r (List.mem_singleton.2 rfl)
    have haccounts := ih hearlier
    have hcoherent : (noteAll {} remarks).Coherent := coherent_empty.noteAll
    have hnext := noteAll_append_singleton {} remarks r
    intro c hc
    obtain ⟨-, hsame⟩ | ⟨⟨hs, hfresh⟩, -⟩ :=
      note_cases (noteAll {} remarks) r.kind r.reason r.message r.now
    · -- Nothing new is said.
      rw [changeTimes_append_singleton, hnext, hsame, if_pos rfl, List.append_nil]
      rw [hnext, hsame] at hc
      exact haccounts c hc
    · have hconditions : (noteAll {} (remarks ++ [r])).conditions = (noteAll {} remarks).conditionsAfter r.kind ++
          [fresh r.kind r.reason r.message r.now ((noteAll {} remarks).since r.kind r.now)] := by
        rw [hnext, note_eq_of_fresh hs hfresh]
      have hc' := hc
      rw [hconditions] at hc'
      rcases List.mem_append.1 hc' with hleft | hnew
      · obtain ⟨old, hold, -, rfl⟩ := mem_conditionsAfter.1 hleft
        rw [Condition.kind_after]
        exact accounts_after hcoherent hold (haccounts old hold) hc hlast
      · rw [List.mem_singleton] at hnew
        have hkind : c.kind = r.kind := by rw [hnew]; rfl
        rw [hkind]
        exact accounts_fresh haccounts hc hkind (by rw [hnew]; rfl) (by rw [hnew]; rfl)

/-- **The time of the last transition is right, except where a verdict has ended `Running`.** Whatever is said of a job,
beginning with no condition at all and each time later than before, every condition tells the time at which its status
changed last, or at which it came up if it has not changed since, unless it is `Running` and no longer holds. Then it
tells an earlier time. -/
theorem transition_times_right_iff (hlater : remarks.Pairwise fun r r' => r.now.nanos < r'.now.nanos) :
    ∀ c ∈ (noteAll {} remarks).conditions,
      (c.Dated (changeTimes c.kind {} remarks) ↔ ¬ (c.kind = .running ∧ c.status = .no)) ∧
      (c.kind = .running ∧ c.status = .no → c.Outdated (changeTimes c.kind {} remarks)) := by
  intro c hc
  have haccounts := accounts_noteAll hlater c hc
  refine ⟨haccounts.dated_iff, fun hended => ?_⟩
  obtain ⟨hyes, -⟩ | ⟨-, houtdated⟩ := haccounts
  · exact absurd (hyes.symm.trans hended.2) (by decide)
  · exact houtdated

/-- The job that ran, was restarted, ran again and was given up tells when it came up and when it was given up, and of
its running when it began the second time. -/
theorem transition_times_right_sampleRemarks :
    sampleRemarks.Pairwise (fun r r' => r.now.nanos < r'.now.nanos) ∧
      (∀ c ∈ (noteAll {} sampleRemarks).conditions, c.kind ≠ .running →
        c.Dated (changeTimes c.kind {} sampleRemarks)) ∧
      ((noteAll {} sampleRemarks).condition? .running).map (·.lastTransitionTime) = some (some ⟨3⟩) ∧
      changeTimes .running {} sampleRemarks = [⟨1⟩, ⟨2⟩, ⟨3⟩, ⟨4⟩] := by
  have hlater : sampleRemarks.Pairwise fun r r' => r.now.nanos < r'.now.nanos := by decide
  refine ⟨hlater, fun c hc hkind => ?_, by decide, by decide⟩
  exact (transition_times_right_iff hlater c hc).1.2 fun hended => hkind hended.1

/-- **The end of the running is not dated.** A job that began to run is done a hundred seconds later; its condition
says that it does not run, since it began to. -/
theorem running_ended_undated :
    let remarks : List Remark :=
      [⟨.running, Reason.jobRunning, "", sampleTime 0⟩, ⟨.succeeded, Reason.jobSucceeded, "", sampleTime 100⟩]
    remarks.Pairwise (fun r r' => r.now.nanos < r'.now.nanos) ∧
      changeTimes .running {} remarks = [sampleTime 0, sampleTime 100] ∧
      ∃ c ∈ (noteAll {} remarks).conditions, c.kind = .running ∧ c.status = .no ∧
        c.lastTransitionTime = some (sampleTime 0) ∧ ¬ c.Dated (changeTimes c.kind {} remarks) := by
  refine ⟨by decide, by decide, _, List.mem_cons_self, ?_⟩
  decide

end JobStatus

end TrainingJobs
