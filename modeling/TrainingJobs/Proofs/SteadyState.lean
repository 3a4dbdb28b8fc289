/-
When a second pass over the same pods writes nothing.

A pass that leaves a job without a verdict writes down what the pods amount to, so one might expect the next
pass over the same pods to find nothing new. **It does, with one exception.** While a master runs and a failed
pod is being replaced, a pass notes both that the job is running and that it is restarting, and since each of
the two ends the other, the next pass notes both again, with its own time: the status never comes to rest
(`Job.Flickers`). Besides, counting pods in slots may count fewer failures than there are failed pods, and then
the failures left over count as new ones against the backoff limit.

`steady_iff` says when exactly a second pass writes nothing, and it also covers a first pass that was held up:
such a pass has written nothing down, so the second one is the first to look.
-/
import TrainingJobs.Proofs.Acceptable
import TrainingJobs.Proofs.Judgement
import TrainingJobs.Proofs.Limits

set_option autoImplicit false

namespace TrainingJobs

open Controller

namespace JobStatus

variable {s : JobStatus} {kind : ConditionKind} {reason message : String} {now : Timestamp}

/-- A note that says something new stands at the end of the history. -/
theorem getLast?_note (hs : s.isFailed = false) (h : ¬ s.Stands kind reason) (message : String)
    (now : Timestamp) :
    ∃ since, (s.note kind reason message now).conditions.getLast? =
      some (fresh kind reason message now since) := by
  obtain ⟨since, hnoted⟩ := note_of_fresh hs h message now
  rw [hnoted]
  exact ⟨since, List.getLast?_concat⟩

/-- `Running` and `Restarting` do not stand together once one of them was noted afresh. -/
theorem not_stands_note {other : ConditionKind} (hs : s.isFailed = false) (h : ¬ s.Stands kind reason)
    (hother : ∀ c : Condition, c.kind = other → c.supersededBy kind = true) (hne : kind ≠ other)
    (message otherReason : String) (now : Timestamp) :
    ¬ (s.note kind reason message now).Stands other otherReason := by
  obtain ⟨since, hnoted⟩ := note_of_fresh hs h message now
  rw [hnoted]
  rintro ⟨current, hcurrent, -⟩
  unfold condition? at hcurrent
  have hmem := List.mem_of_find?_eq_some hcurrent
  have hkind : current.kind = other :=
    beq_iff_eq.1 (List.find?_some (p := fun c : Condition => c.kind == other) hcurrent)
  rcases List.mem_append.1 hmem with hmem | hmem
  · -- What is left of the history has nothing of the other kind.
    obtain ⟨old, -, hkept, rfl⟩ := mem_conditionsAfter.1 hmem
    rw [hother old ((old.kind_after kind).symm.trans hkind)] at hkept
    exact Bool.noConfusion hkept
  · rw [List.mem_singleton] at hmem
    subst hmem
    exact hne hkind

/-- The status with what a pass notes of a job without a verdict: that a master is running, and that pods are
being replaced. -/
def noted (running restarting : Bool) (runs restarts : String) (now : Timestamp) (s : JobStatus) : JobStatus :=
  let s' := if running then s.note .running Reason.jobRunning runs now else s
  if restarting then s'.note .restarting Reason.jobRestarting restarts now else s'

/-- Noting that a job runs or restarts fails no job. -/
theorem isFailed_noted (running restarting : Bool) (runs restarts : String) (now : Timestamp) (s : JobStatus) :
    (noted running restarting runs restarts now s).isFailed = s.isFailed := by
  unfold noted
  cases running <;> cases restarting
  · rfl
  · exact (isFailed_note s _ _ _ now).trans (Bool.or_false _)
  · exact (isFailed_note s _ _ _ now).trans (Bool.or_false _)
  · exact ((isFailed_note _ _ _ _ now).trans (Bool.or_false _)).trans
      ((isFailed_note s _ _ _ now).trans (Bool.or_false _))

/-- The history is one that a pass at `now` leaves which notes a job running, restarting, or both. -/
structure Rested (running restarting : Bool) (now : Timestamp) (s : JobStatus) : Prop where
  unfailed : s.isFailed = false
  runs : running = true → restarting = false → s.Stands .running Reason.jobRunning
  restarts : restarting = true → s.Stands .restarting Reason.jobRestarting
  /-- Where both were noted and `Running` does not stand, `Restarting` was noted afresh. -/
  last : running = true → restarting = true → ¬ s.Stands .running Reason.jobRunning →
    ∃ message since, s.conditions.getLast? = some (fresh .restarting Reason.jobRestarting message now since)

variable {running restarting : Bool} {later : Timestamp} {s' : JobStatus}

/-- A rest is one of the conditions alone. -/
theorem Rested.of_conditions (h : Rested running restarting now s) (hs' : s'.conditions = s.conditions) :
    Rested running restarting now s' := by
  obtain ⟨hunfailed, hruns, hrestarts, hlast⟩ := h
  unfold isFailed holds Stands condition? at *
  rw [← hs'] at hunfailed hruns hrestarts hlast
  refine ⟨hunfailed, ?_, ?_, ?_⟩
  · unfold Stands condition?
    exact hruns
  · unfold Stands condition?
    exact hrestarts
  · unfold Stands condition?
    exact hlast

/-- What a pass notes of a job that has not failed leaves the history at rest. -/
theorem rested_noted (hs : s.isFailed = false) (runs restarts : String) (now : Timestamp) :
    Rested running restarting now (s.noted running restarting runs restarts now) := by
  have hunfailed := (isFailed_noted running restarting runs restarts now s).trans hs
  have hrunning : (s.note .running Reason.jobRunning runs now).isFailed = false :=
    ((isFailed_note s _ _ _ now).trans (Bool.or_false _)).trans hs
  refine ⟨hunfailed, ?_, ?_, ?_⟩
  · rintro rfl rfl
    exact stands_note hs
  · rintro rfl
    cases running with
    | false => exact stands_note hs
    | true => exact stands_note hrunning
  · rintro rfl rfl hgone
    refine ⟨restarts, getLast?_note hrunning (fun hstands => hgone ?_) restarts now⟩
    -- Were `Restarting` not noted afresh, what was noted before it would still stand.
    change (note (note s _ _ _ now) _ _ _ now).Stands _ _
    rw [note_of_stands hstands]
    exact stands_note hs

/-- **Noting the same again changes nothing, unless the job is both running and restarting and `Running` does
not stand.** -/
theorem Rested.noted_eq_iff (h : Rested running restarting now s) (htime : now ≠ later) (runs restarts : String) :
    s.noted running restarting runs restarts later = s ↔
      ¬ (running = true ∧ restarting = true ∧ ¬ s.Stands .running Reason.jobRunning) := by
  cases running with
  | false =>
    cases restarting with
    | false => simp [noted]
    | true => exact iff_of_true (note_of_stands (h.restarts rfl)) (by simp)
  | true =>
    cases restarting with
    | false =>
      -- Nothing ends `Running` when it is all that is noted.
      exact iff_of_true (note_of_stands (h.runs rfl rfl)) (by simp)
    | true =>
      rw [and_iff_right rfl, and_iff_right rfl, Classical.not_not]
      change (s.note .running Reason.jobRunning runs later).note _ _ restarts later = s ↔ _
      constructor
      · -- If `Running` does not stand, both are noted afresh, and the last one with the time of this pass.
        intro hsame
        refine Classical.byContradiction fun hgone => ?_
        have hended : ¬ (s.note .running Reason.jobRunning runs later).Stands .restarting
            Reason.jobRestarting := by
          refine not_stands_note h.unfailed hgone (fun c hc => ?_) (by decide) _ _ _
          unfold Condition.supersededBy
          rw [hc]
          rfl
        have hunfailed : (s.note .running Reason.jobRunning runs later).isFailed = false :=
          ((isFailed_note s _ _ _ later).trans (Bool.or_false _)).trans h.unfailed
        obtain ⟨since, hlast⟩ := getLast?_note hunfailed hended restarts later
        obtain ⟨message, since', hlast'⟩ := h.last rfl rfl hgone
        rw [hsame, hlast', Option.some.injEq] at hlast
        have htimes := congrArg Condition.lastUpdateTime hlast
        exact htime (Option.some.inj htimes)
      · intro hstands
        rw [note_of_stands hstands, note_of_stands (h.restarts rfl)]

end JobStatus

namespace Job

variable {job : Job} {now later : Timestamp} {pods : List Pod} {s : JobStatus}

/-! ## What a pass notes of a job without a verdict -/

/-- A pod in a slot of the type is running, and the type is that of the master. -/
def runsAt (pods : List Pod) (e : String × ReplicaSpec) : Bool :=
  isMasterType e.1 && decide (0 < phaseCount "Running" (podPlan e.1 e.2 pods).seated)

/-- A pod in a slot of the type has failed, and the pods of the type are replaced. -/
def replacesAt (pods : List Pod) (e : String × ReplicaSpec) : Bool :=
  decide (e.2.restart = .exitCode) && decide (0 < phaseCount "Failed" (podPlan e.1 e.2 pods).seated)

/-- A master is running. -/
def masterRuns (job : Job) (pods : List Pod) : Bool := job.spec.replicaSpecs.entries.any (runsAt pods)

/-- A failed pod is being replaced. -/
def replaces (job : Job) (pods : List Pod) : Bool := job.spec.replicaSpecs.entries.any (replacesAt pods)

/-- Every pass notes the job both running and restarting anew: a master runs, a failed pod is being replaced,
and `Running` does not stand. -/
def Flickers (job : Job) (pods : List Pod) (known : JobStatus) : Prop :=
  job.masterRuns pods = true ∧ job.replaces pods = true ∧ ¬ known.Stands .running Reason.jobRunning

/-- What is noted of a type that is not decisive is what its pods show. -/
theorem exists_judgeType_eq {e : String × ReplicaSpec} (job : Job) (now : Timestamp)
    (hcounts : s.countsOf e.1 = .ofPods (podPlan e.1 e.2 pods).seated)
    (hquiet : Decisive e (s.countsOf e.1) = false) : ∃ runs restarts,
      (job.judgeType e.1 e.2 e.2.count now s).1 =
      s.noted (runsAt pods e) (replacesAt pods e) runs restarts now := by
  obtain ⟨runs, restarts, h⟩ := judgeType_of_not_decisive job now hquiet
  refine ⟨runs, restarts, ?_⟩
  have hruns : (isMasterType e.1 = true ∧ 0 < (s.countsOf e.1).active) ↔ runsAt pods e = true := by
    unfold runsAt
    rw [hcounts, Bool.and_eq_true_iff, decide_eq_true_iff]
    exact and_congr_right fun _ => ofNat_phaseCount_pos
  -- The type is noted as restarting when it has a failed pod, whatever its policy is.
  have hreplaces : 0 < (s.countsOf e.1).failed ↔ replacesAt pods e = true := by
    unfold replacesAt
    rw [Bool.and_eq_true_iff, decide_eq_true_iff, decide_eq_true_iff]
    unfold Decisive at hquiet
    rw [hcounts, Bool.or_eq_false_iff] at hquiet
    rw [hcounts]
    have hpos : 0 < (ReplicaCounts.ofPods (podPlan e.1 e.2 pods).seated).failed ↔
        0 < phaseCount "Failed" (podPlan e.1 e.2 pods).seated := ofNat_phaseCount_pos
    refine ⟨fun hfailed => ⟨?_, hpos.1 hfailed⟩, fun h => hpos.2 h.2⟩
    -- A failed pod that is not replaced would have been decisive.
    have hreplaced := hquiet.2
    rw [decide_eq_true hfailed, Bool.and_true, decide_eq_false_iff_not, Decidable.not_not] at hreplaced
    exact hreplaced
  rw [h]
  unfold JobStatus.noted
  simp only [hruns, hreplaces]

/-- What is noted of two types together. -/
theorem noted_noted_restarting (hs : s.isFailed = false) (running : Bool) (restarting restarting' : Bool)
    (runs restarts runs' restarts' : String) (now : Timestamp) : ∃ restarts'',
      (s.noted running restarting runs restarts now).noted false restarting' runs' restarts' now =
        s.noted running (restarting || restarting') runs restarts'' now := by
  cases restarting with
  | false => exact ⟨restarts', rfl⟩
  | true =>
    refine ⟨restarts, ?_⟩
    cases restarting' with
    | false => rfl
    | true =>
      -- The second type finds `Restarting` standing already.
      refine JobStatus.note_of_stands (JobStatus.stands_note ?_)
      cases running with
      | false => exact hs
      | true => exact ((JobStatus.isFailed_note s _ _ _ now).trans (Bool.or_false _)).trans hs

/-- What is noted of an acceptable job without a verdict is what its pods show. -/
theorem exists_judge_eq (hvalid : job.spec.fault? = none) (hfilled : Filled job.spec.replicaSpecs.entries)
    (hs : s.isFailed = false)
    (hcounts : ∀ e ∈ job.spec.replicaSpecs.entries, s.countsOf e.1 = .ofPods (podPlan e.1 e.2 pods).seated)
    (hquiet : ∀ e ∈ job.spec.replicaSpecs.entries, Decisive e (s.countsOf e.1) = false) (now : Timestamp) :
    ∃ runs restarts,
      (job.judge now s).status = s.noted (job.masterRuns pods) (job.replaces pods) runs restarts now := by
  unfold judge masterRuns replaces
  rcases JobSpec.entries_of_acceptable hvalid with ⟨m, hentries⟩ | ⟨m, w, hentries⟩
  · rw [hentries] at hfilled hcounts hquiet ⊢
    have hm := List.mem_singleton_self (masterType, m)
    obtain ⟨runs, restarts, h⟩ := exists_judgeType_eq job now (hcounts _ hm) (hquiet _ hm)
    refine ⟨runs, restarts, ?_⟩
    rw [status_judgeTypes_cons hfilled]
    simp only [judgeTypes, List.any_cons, List.any_nil, Bool.or_false]
    exact h
  · rw [hentries] at hfilled hcounts hquiet ⊢
    have hm : (masterType, m) ∈ [(masterType, m), (workerType, w)] := by simp
    have hw : (workerType, w) ∈ [(masterType, m), (workerType, w)] := by simp
    obtain ⟨runs, restarts, h⟩ := exists_judgeType_eq job now (hcounts _ hm) (hquiet _ hm)
    have hcounts' := countsOf_judgeType job masterType m m.count now s workerType
    obtain ⟨runs', restarts', h'⟩ := exists_judgeType_eq job now (e := (workerType, w))
      (hcounts'.trans (hcounts _ hw)) (by rw [hcounts']; exact hquiet _ hw)
    -- Only a master makes a job run, so the workers can add no more than that it is restarting.
    have hworker : runsAt pods (workerType, w) = false := by
      unfold runsAt
      rw [show isMasterType workerType = false by decide, Bool.false_and]
    obtain ⟨restarts'', hboth⟩ := noted_noted_restarting hs (runsAt pods (masterType, m))
      (replacesAt pods (masterType, m)) (replacesAt pods (workerType, w)) runs restarts runs' restarts' now
    refine ⟨runs, restarts'', ?_⟩
    rw [status_judgeTypes_cons hfilled, status_judgeTypes_cons fun e he => hfilled e (List.mem_cons_of_mem _ he)]
    simp only [judgeTypes, List.any_cons, List.any_nil, Bool.or_false, hworker]
    rw [← hboth, ← h, ← hworker]
    exact h'

/-! ## The second look -/

/-- The status is one that a pass at `now` over these pods leaves, when it leaves the job without a verdict. -/
structure Assessed (job : Job) (pods : List Pod) (now : Timestamp) (s : JobStatus) : Prop where
  started : s.startTime.isSome = true
  created : s.holds .created = true
  counts : ∀ e ∈ job.spec.replicaSpecs.entries, s.replicaStatuses.get? e.1 =
    some (.ofPods (podPlan e.1 e.2 pods).seated)
  quiet : ∀ e ∈ job.spec.replicaSpecs.entries, Decisive e (s.countsOf e.1) = false
  rested : s.Rested (job.masterRuns pods) (job.replaces pods) now

/-- Nor does it change whether the job was taken in. -/
theorem holds_created_noted (running restarting : Bool) (runs restarts : String) (now : Timestamp)
    (s : JobStatus) :
    (s.noted running restarting runs restarts now).holds .created = s.holds .created := by
  have hnote : ∀ (s : JobStatus) kind reason message, ConditionKind.created ≠ kind →
      (s.note kind reason message now).holds .created = s.holds .created := fun s kind reason message hne =>
    JobStatus.holds_note_of_ne (by decide) (by decide) hne
  unfold JobStatus.noted
  cases running <;> cases restarting
  · rfl
  · exact hnote _ _ _ _ (by decide)
  · exact hnote _ _ _ _ (by decide)
  · exact (hnote _ _ _ _ (by decide)).trans (hnote _ _ _ _ (by decide))

/-- The start of the job stays. -/
theorem startTime_noted (running restarting : Bool) (runs restarts : String) (now : Timestamp) (s : JobStatus) :
    (s.noted running restarting runs restarts now).startTime = s.startTime := by
  unfold JobStatus.noted
  cases running <;> cases restarting <;> simp

/-- And so do the counts. -/
theorem replicaStatuses_noted (running restarting : Bool) (runs restarts : String) (now : Timestamp)
    (s : JobStatus) : (s.noted running restarting runs restarts now).replicaStatuses = s.replicaStatuses := by
  unfold JobStatus.noted
  cases running <;> cases restarting <;> simp

/-- A job that is taken in has the condition that it was created. -/
theorem holds_created_takenIn (hs : job.currentStatus.isFailed = false) :
    (job.takenIn now).holds .created = true := by
  unfold takenIn
  simp only
  split
  · next h => exact h
  · exact JobStatus.holds_note_self hs

/-- A pass that leaves an acceptable job without a verdict leaves it assessed. -/
theorem assessed_assessed (hvalid : job.spec.fault? = none) (hfilled : Filled job.spec.replicaSpecs.entries)
    (hunfinished : (job.assessed now pods).isFinished = false) :
    job.Assessed pods now (job.assessed now pods) := by
  have hsorted := job.spec.replicaSpecs.sorted
  generalize hs : counted pods job.spec.replicaSpecs.entries (job.takenIn now) = s
  -- All types are judged by the counts that are in `s`, and none of them is decisive.
  have hstatus : job.assessed now pods = (job.judge now s).status := by rw [← hs]; rfl
  have hcounts : ∀ e ∈ job.spec.replicaSpecs.entries,
      s.countsOf e.1 = .ofPods (podPlan e.1 e.2 pods).seated := fun e he => hs ▸ countsOf_counted _ hsorted he
  rw [hstatus] at hunfinished ⊢
  unfold judge at hunfinished
  rw [isFinished_judgeTypes hfilled, Bool.or_eq_false_iff, List.any_eq_false] at hunfinished
  obtain ⟨hopen, hquiet⟩ := hunfinished
  have hquiet : ∀ e ∈ job.spec.replicaSpecs.entries, Decisive e (s.countsOf e.1) = false := fun e he =>
    Bool.not_eq_true _ ▸ hquiet e he
  have hunfailed : s.isFailed = false := (Bool.or_eq_false_iff.1 hopen).2
  obtain ⟨runs, restarts, hnoted⟩ := exists_judge_eq hvalid hfilled hunfailed hcounts hquiet now
  obtain ⟨counts, htaken⟩ := exists_counted pods job.spec.replicaSpecs.entries (job.takenIn now)
  rw [hs] at htaken
  rw [hnoted]
  refine ⟨?_, ?_, ?_, ?_, JobStatus.rested_noted hunfailed runs restarts now⟩
  · rw [startTime_noted, htaken]
    exact Option.isSome_iff_exists.2 ⟨_, startTime_takenIn job now⟩
  · rw [holds_created_noted, htaken]
    refine holds_created_takenIn ?_
    rw [htaken] at hunfailed
    exact (isFailed_takenIn job now).symm.trans hunfailed
  · intro e he
    rw [replicaStatuses_noted, ← hs]
    exact get?_counted _ hsorted he
  · intro e he
    have hsame : (s.noted (job.masterRuns pods) (job.replaces pods) runs restarts now).countsOf e.1 =
        s.countsOf e.1 := by
      unfold JobStatus.countsOf
      rw [replicaStatuses_noted]
    rw [hsame]
    exact hquiet e he

/-- Neither when a status was written nor by which write a job came to be matters. -/
theorem Assessed.of_written {job' : Job} {s' : JobStatus} (h : job.Assessed pods now s)
    (hspec : job'.spec = job.spec) (hs' : s' = s ∨ ∃ time, s' = { s with lastReconcileTime := time }) :
    job'.Assessed pods now s' := by
  obtain ⟨hstarted, hcreated, hcounts, hquiet, hrested⟩ := h
  unfold masterRuns replaces at hrested
  rw [← hspec] at hcounts hquiet hrested
  rcases hs' with rfl | ⟨time, rfl⟩
  · exact ⟨hstarted, hcreated, hcounts, hquiet, hrested⟩
  · exact ⟨hstarted, hcreated, hcounts, hquiet, hrested.of_conditions rfl⟩

/-- **A second look at the same pods finds nothing new exactly when the job does not flicker.** -/
theorem Assessed.assessed_eq_iff (h : job.Assessed pods now job.currentStatus)
    (hvalid : job.spec.fault? = none) (hfilled : Filled job.spec.replicaSpecs.entries) (htime : now ≠ later) :
    job.assessed later pods = job.currentStatus ↔ ¬ job.Flickers pods job.currentStatus := by
  -- The job has been taken in before and its pods have been counted, so what is left is what is noted.
  have htaken : job.takenIn later = job.currentStatus := by
    obtain ⟨start, hstart⟩ := Option.isSome_iff_exists.1 h.started
    have hsame : { job.currentStatus with startTime := some (job.currentStatus.startTime.getD later) } =
        job.currentStatus := by
      rw [hstart, Option.getD_some, ← hstart]
    unfold takenIn
    simp only
    rw [hsame, if_pos h.created]
  have hcounted : counted pods job.spec.replicaSpecs.entries (job.takenIn later) = job.currentStatus := by
    rw [htaken]
    exact counted_eq_self h.counts
  have hcounts : ∀ e ∈ job.spec.replicaSpecs.entries,
      job.currentStatus.countsOf e.1 = .ofPods (podPlan e.1 e.2 pods).seated := by
    intro e he
    unfold JobStatus.countsOf
    rw [h.counts e he]
    rfl
  obtain ⟨runs, restarts, hnoted⟩ := exists_judge_eq hvalid hfilled h.rested.unfailed hcounts h.quiet later
  unfold assessed
  rw [hcounted, hnoted]
  exact h.rested.noted_eq_iff htime runs restarts

end Job

/-! ## Two passes -/

namespace Job

variable {job : Job} {now : Timestamp} {pods : List Pod} {retries : Nat}

/-- A status is written to a record exactly when it is not the one that is there. -/
theorem written_ne_recorded_iff {status : JobStatus} :
    (∀ s, job.written now status ≠ .recorded s) ↔ status = job.currentStatus := by
  unfold written
  by_cases hsame : status = job.currentStatus
  · rw [if_neg (not_not_intro hsame)]
    exact iff_of_true (fun _ => Resolution.noConfusion) hsame
  · rw [if_pos hsame]
    exact iff_of_false (fun hnot => hnot _ rfl) hsame

/-- A look at a job without a verdict writes nothing exactly when the job goes over a limit and is deleted for
it, or when it is past no limit and its pods amount to what is known. -/
theorem resolved_ne_recorded_iff (hunfinished : job.currentStatus.isFinished = false) :
    (∀ s, job.resolved now pods retries ≠ .recorded s) ↔
      (job.exceeded? pods retries (job.takenIn now) now).isSome = true ∧ ¬ job.GivenUp now pods retries ∨
      job.exceeded? pods retries (job.takenIn now) now = none ∧ job.assessed now pods = job.currentStatus := by
  unfold resolved
  simp only [isFinished_takenIn, hunfinished, Bool.false_or]
  rcases hlimit : job.exceeded? pods retries (job.takenIn now) now with _ | message
  · simp only [Option.isSome_none, Bool.false_eq_true, if_false, false_and, false_or, true_and]
    exact written_ne_recorded_iff
  · simp only [Option.isSome_some, if_true, true_and, givenUp_iff_of_over hlimit, Classical.not_not, reduceCtorEq,
      false_and, or_false]
    by_cases hexpired : job.Expired now (job.closed now (some message))
    · rw [ended_of_expired hexpired]
      exact iff_of_true (fun _ => Resolution.noConfusion) hexpired
    · rw [ended_of_not_expired hexpired, written_ne_recorded_iff]
      -- The status to be written has failed, and the one that is there has not.
      refine iff_of_false (fun hsame => ?_) hexpired
      have hfailed := isFailed_closed job now (some message)
      rw [hsame, Option.isSome_some, Bool.or_true] at hfailed
      rw [JobStatus.isFinished, hfailed, Bool.or_true] at hunfinished
      exact absurd hunfinished (by decide)

/-- What a first pass that attended to a job without a verdict leaves of it: what it saw of the pods, unless it
found the job past a limit and meant to delete it. -/
theorem of_resolved_unfinished (job' : Job) (hvalid : job.spec.fault? = none)
    (hfilled : Filled job.spec.replicaSpecs.entries)
    (hstatus : job'.currentStatus = (job.resolved now pods retries).statusAfter job.currentStatus)
    (hspec : job'.spec = job.spec) (hunfinished : job'.currentStatus.isFinished = false) :
    job'.Assessed pods now job'.currentStatus ∨
      (job.exceeded? pods retries (job.takenIn now) now).isSome = true ∧
        job'.currentStatus = job.currentStatus := by
  -- What is written at the end of a job has a verdict: the old one, or the failure.
  have hclosed : ∀ failure, ((job.takenIn now).isFinished || failure.isSome) = true →
      (job.closed now failure).isFinished = true := by
    intro failure hend
    rw [isFinished_takenIn] at hend
    rw [isFinished_closed]
    exact hend
  have hverdict := verdict_written job now
  unfold resolved at hstatus
  simp only at hstatus
  split at hstatus
  · next hend =>
    generalize hfailure : job.exceeded? pods retries (job.takenIn now) now = failure at *
    by_cases hexpired : job.Expired now (job.closed now failure)
    · rw [ended_of_expired hexpired] at hstatus
      refine .inr ⟨?_, hstatus⟩
      rw [hstatus] at hunfinished
      have hopen := (isFinished_takenIn job now).trans hunfinished
      rw [hopen, Bool.false_or] at hend
      exact hend
    · -- A job that was brought to its end would have a verdict.
      rw [ended_of_not_expired hexpired] at hstatus
      have hfinished := hclosed failure hend
      obtain ⟨hsucceeded, hfailed⟩ := hverdict (job.closed now failure)
      unfold JobStatus.isFinished at hfinished hunfinished
      rw [hstatus, hsucceeded, hfailed, hfinished] at hunfinished
      exact absurd hunfinished (by decide)
  · have hopen : (job.assessed now pods).isFinished = false := by
      obtain ⟨hsucceeded, hfailed⟩ := hverdict (job.assessed now pods)
      unfold JobStatus.isFinished at hunfinished ⊢
      rw [hstatus, hsucceeded, hfailed] at hunfinished
      exact hunfinished
    refine .inl ((assessed_assessed hvalid hfilled hopen).of_written hspec ?_)
    rw [hstatus]
    unfold written
    split
    · exact .inr ⟨some now, rfl⟩
    · next hsame => exact .inl (Decidable.not_not.1 hsame).symm

end Job

/-- A pass writes nothing to the record of an acceptable job without a verdict whose deadline has not passed
exactly when it fails, or is held up, or deletes the job for its backoff limit, or finds nothing new. -/
theorem statusUpdates_sync_eq_iff {key : String} {a : Address} {now : Timestamp} {c : Controller MemoryStore}
    {job : Job} (hkey : splitKey? key = some (a.ns, a.name)) (hjob : c.store.jobs.get? a = some job)
    (haddress : job.address = a) (hvalid : job.withDefaults.spec.fault? = none)
    (hunfinished : job.currentStatus.isFinished = false) (hdeadline : ¬ job.withDefaults.PastDeadline now) :
    ((sync now key).run c).2.store.statusUpdates = c.store.statusUpdates ↔
      ((sync now key).run c).1.isOk = false ∨ job.withDefaults.HeldUp now c ∨
      job.withDefaults.PastBackoff (job.withDefaults.podsIn c.store) (c.retries.count key) ∧
        ¬ job.withDefaults.GivenUp now (job.withDefaults.podsIn c.store) (c.retries.count key) ∨
      ¬ job.withDefaults.PastBackoff (job.withDefaults.podsIn c.store) (c.retries.count key) ∧
        job.withDefaults.assessed now (job.withDefaults.podsIn c.store) = job.currentStatus := by
  have hpass := yields_sync now hkey hjob haddress
  rcases hrun : (sync now key).run c with ⟨e | outcome, c'⟩
  · exact iff_of_true (hpass.error hrun).statusUpdates (.inl rfl)
  · have hok : ¬ (Except.ok outcome : Except OperatorError Outcome).isOk = false := Bool.noConfusion
    rw [(hpass.ok hrun).2.statusUpdates_eq_iff, or_iff_right hok]
    rw [outlook_of_acceptable hvalid]
    -- A pass that ends well writes nothing if held up, if it deletes the job at its limit, or if all is as before.
    by_cases hheld : job.withDefaults.HeldUp now c
    · rw [if_pos hheld]
      exact iff_of_true (fun _ => Resolution.noConfusion) (.inl hheld)
    · have hopen : job.withDefaults.currentStatus.isFinished = false := hunfinished
      have hkey' : job.withDefaults.key = key := key_eq_of_splitKey? hkey haddress
      rw [if_neg hheld, or_iff_right hheld, Job.resolved_ne_recorded_iff hopen, Job.exceeded?_isSome_iff,
        Job.exceeded?_eq_none_iff, or_iff_left hdeadline, and_iff_left hdeadline, hkey']
      exact Iff.rfl

/-- **After a pass that touches no pod and leaves an acceptable job without a verdict, a later pass over the
same pods writes nothing exactly when it fails or is held up, or deletes the job for its backoff limit, or
finds the job with retries left and not flickering.** If the first pass was itself held up, nothing was
written down by it, and the pods have to amount to what was known before. -/
theorem steady_iff {key : String} {a : Address} {now later : Timestamp} {c c₁ c₂ : Controller MemoryStore}
    {stored job : Job} {outcome : Outcome} (hkey : splitKey? key = some (a.ns, a.name))
    (hstored : c.store.jobs.get? a = some stored) (haddress : stored.address = a)
    (hvalid : stored.withDefaults.spec.fault? = none)
    (hrun : (sync now key).run c = (.ok outcome, c₁)) (hpods₁ : c₁.store.pods = c.store.pods)
    (hjob₁ : c₁.store.jobs.get? a = some job) (hunfinished : job.currentStatus.isFinished = false)
    (hjob₂ : c₂.store.jobs.get? a = some job) (hpods₂ : c₂.store.pods = c₁.store.pods)
    (hretries : c₂.retries.count key = c₁.retries.count key) (htime : now.nanos < later.nanos)
    (hdeadline : ¬ job.withDefaults.PastDeadline later) :
    ((sync later key).run c₂).2.store.statusUpdates = c₂.store.statusUpdates ↔
      ((sync later key).run c₂).1.isOk = false ∨ job.withDefaults.HeldUp later c₂ ∨
      job.withDefaults.PastBackoff (job.withDefaults.podsIn c₂.store) (c₂.retries.count key) ∧
        ¬ job.withDefaults.GivenUp later (job.withDefaults.podsIn c₂.store) (c₂.retries.count key) ∨
      ¬ job.withDefaults.PastBackoff (job.withDefaults.podsIn c₂.store) (c₂.retries.count key) ∧
        if stored.withDefaults.HeldUp now c then
          job.withDefaults.assessed later (job.withDefaults.podsIn c₂.store) = job.currentStatus
        else ¬ job.withDefaults.Flickers (job.withDefaults.podsIn c₂.store) job.currentStatus := by
  have hfirst := ((yields_sync now hkey hstored haddress).ok hrun).2
  obtain ⟨found, hfound, hstatus, hsame⟩ := hfirst.stored hjob₁
  rw [hstored, Option.some.injEq] at hfound
  subst hfound
  have hspec : job.withDefaults.spec = stored.withDefaults.spec := congrArg JobSpec.withDefaults hsame.spec
  have hkey₁ : stored.withDefaults.key = key := key_eq_of_splitKey? hkey haddress
  have hpods : job.withDefaults.podsIn c₂.store = stored.withDefaults.podsIn c.store := by
    unfold Job.podsIn
    rw [hpods₂, hpods₁, show job.withDefaults.ns = stored.withDefaults.ns from hsame.ns,
      show job.withDefaults.name = stored.withDefaults.name from hsame.name]
  -- The two sides differ only in what the second pass finds new once it gets to look at the pods.
  rw [statusUpdates_sync_eq_iff hkey hjob₂ (hsame.address.trans haddress) (hspec ▸ hvalid) hunfinished hdeadline]
  refine or_congr_right (or_congr_right (or_congr_right (and_congr_right fun hbackoff => ?_)))
  by_cases hheld : stored.withDefaults.HeldUp now c
  · rw [if_pos hheld]
  · rw [if_neg hheld, hpods]
    rw [hpods, hretries, hfirst.retries, ← hkey₁] at hbackoff
    unfold Job.outlook at hstatus
    simp only at hstatus
    rw [hvalid] at hstatus
    simp only at hstatus
    rw [if_neg hheld] at hstatus
    rcases Job.of_resolved_unfinished job.withDefaults hvalid (Job.filled_withDefaults stored) hstatus hspec
      hunfinished with hassessed | ⟨hlimit, hkept⟩
    · refine hassessed.assessed_eq_iff (hspec ▸ hvalid) (Job.filled_withDefaults job) fun hsame => ?_
      rw [hsame] at htime
      exact absurd htime (Int.lt_irrefl _)
    · -- A job that was past a limit and is still as it was is past the same limit now.
      rcases Job.exceeded?_isSome_iff.1 hlimit with hbefore | hbefore
      · exact absurd ((Job.pastBackoff_congr hspec hkept).2 hbefore) hbackoff
      · exact absurd ((Job.pastDeadline_congr hspec hkept).2 (hbefore.mono (Int.le_of_lt htime))) hdeadline

/-- A job whose master runs, and whose worker has failed for good although its pods are replaced by exit
code. Its pods and services are all there. -/
def flickering : Controller MemoryStore :=
  let start := sampleStartWith
    (sampleJob {} [(masterType, sampleType 1 .exitCode), (workerType, sampleType 1 .exitCode)] none)
    [samplePod masterType 0 "Running" none, samplePod workerType 0 "Failed" (some 1)]
  { start with store := { start.store with
      services := .ofList
        ([sampleService masterType 0, sampleService workerType 0].map fun s => (addressOf s, s)) } }

/-- The flickering job after a pass over it. -/
def flickered : Controller MemoryStore := ((sync (sampleTime 1) sampleKey).run flickering).2

/-- Whether the second pass writes is decided as for any other job. -/
theorem steady_iff_flickered :
    ∃ stored job : Job, flickering.store.jobs.get? sampleAddress = some stored ∧
      flickered.store.jobs.get? sampleAddress = some job ∧
      (((sync (sampleTime 2) sampleKey).run flickered).2.store.statusUpdates = flickered.store.statusUpdates ↔
        ((sync (sampleTime 2) sampleKey).run flickered).1.isOk = false ∨
        job.withDefaults.HeldUp (sampleTime 2) flickered ∨
        job.withDefaults.PastBackoff (job.withDefaults.podsIn flickered.store)
            (flickered.retries.count sampleKey) ∧
          ¬ job.withDefaults.GivenUp (sampleTime 2) (job.withDefaults.podsIn flickered.store)
            (flickered.retries.count sampleKey) ∨
        ¬ job.withDefaults.PastBackoff (job.withDefaults.podsIn flickered.store)
            (flickered.retries.count sampleKey) ∧
          if stored.withDefaults.HeldUp (sampleTime 1) flickering then
            job.withDefaults.assessed (sampleTime 2) (job.withDefaults.podsIn flickered.store) = job.currentStatus
          else ¬ job.withDefaults.Flickers (job.withDefaults.podsIn flickered.store) job.currentStatus) := by
  have hstart : (flickering.store.jobs.get? sampleAddress).map (fun job =>
      (job.address, job.withDefaults.spec.fault?)) = some (sampleAddress, none) := by decide +kernel
  obtain ⟨stored, hstored, hfound⟩ := Option.map_eq_some_iff.1 hstart
  rw [Prod.mk.injEq] at hfound
  have hleft : (flickered.store.jobs.get? sampleAddress).map (fun job =>
      (job.currentStatus.isFinished, job.withDefaults.spec.runPolicy.activeDeadlineSeconds)) =
      some (false, none) := by decide +kernel
  obtain ⟨job, hjob, hunfinished⟩ := Option.map_eq_some_iff.1 hleft
  rw [Prod.mk.injEq] at hunfinished
  have hdeadline : ¬ job.withDefaults.PastDeadline (sampleTime 2) := by
    rw [Job.pastDeadline_iff, hunfinished.2]
    rintro ⟨deadline, hsome, -⟩
    exact absurd hsome (by simp)
  obtain ⟨outcome, hrun⟩ := exists_run_ok
    (show ((sync (sampleTime 1) sampleKey).run flickering).1.isOk = true by decide +kernel)
  rw [← flickered] at hrun
  exact ⟨stored, job, hstored, hjob, steady_iff (by decide +kernel) hstored hfound.1 hfound.2 hrun
    (by decide +kernel) hjob hunfinished.1 hjob rfl rfl (by decide) hdeadline⟩

/-- The first pass touches no pod and no service and leaves the job without a verdict, and the second writes
its status all the same. -/
theorem steady_state_flickers :
    ((sync (sampleTime 1) sampleKey).run flickering).1.isOk = true ∧
      flickered.store.pods = flickering.store.pods ∧ flickered.store.services = flickering.store.services ∧
      (flickered.store.jobs.get? sampleAddress).map (fun job => job.currentStatus.isFinished) = some false ∧
      ((sync (sampleTime 2) sampleKey).run flickered).2.store.statusUpdates ≠ flickered.store.statusUpdates := by
  refine ⟨?_, ?_, ?_, ?_, ?_⟩ <;> decide +kernel

end TrainingJobs
