/-
What the counts of the pods make of the status of a job.

Counting sets the counts of each replica type and nothing else, and since no type is counted twice, the counts
of a type are those of its own pods (`countsOf_counted`). Judging adds conditions and never touches a count, so
every type is judged by the counts that were there at the start. A type fails the job exactly when one of its
seated pods has failed and its pods are not replaced by exit code (`isFailed_assessed`), whatever the types
before it have noted.
-/
import TrainingJobs.Proofs.Conditions

set_option autoImplicit false

namespace TrainingJobs

namespace JobStatus

@[simp] theorem replicaStatuses_note (s : JobStatus) (kind : ConditionKind) (reason message : String)
    (now : Timestamp) : (s.note kind reason message now).replicaStatuses = s.replicaStatuses := by
  obtain ⟨-, h⟩ | ⟨-, since, h⟩ := note_cases s kind reason message now <;> rw [h]

end JobStatus

namespace Job

variable {job : Job} {now : Timestamp} {pods : List Pod}

/-! ## Counting -/

/-- Counting changes nothing but counts. -/
theorem exists_counted (pods : List Pod) (entries : List (String × ReplicaSpec)) (s : JobStatus) :
    ∃ counts, counted pods entries s = { s with replicaStatuses := counts } := by
  induction entries generalizing s with
  | nil => exact ⟨s.replicaStatuses, rfl⟩
  | cons e rest ih =>
    obtain ⟨counts, h⟩ := ih (Controller.countPods e.1 (Controller.podPlan e.1 e.2 pods) s)
    exact ⟨counts, h⟩

/-- Counting pods fails no job. -/
theorem isFailed_counted (pods : List Pod) (entries : List (String × ReplicaSpec)) (s : JobStatus) :
    (counted pods entries s).isFailed = s.isFailed := by
  obtain ⟨counts, h⟩ := exists_counted pods entries s
  rw [h]
  rfl

/-- What is counted of a type stays, when the types that are counted later are others. -/
theorem get?_counted_of_ne {replicaType : String} (pods : List Pod) (entries : List (String × ReplicaSpec))
    (s : JobStatus) (h : ∀ e ∈ entries, replicaType ≠ e.1) :
    (counted pods entries s).replicaStatuses.get? replicaType = s.replicaStatuses.get? replicaType := by
  induction entries generalizing s with
  | nil => rfl
  | cons e rest ih =>
    rw [counted, ih _ fun e' he' => h e' (List.mem_cons_of_mem _ he')]
    exact Dict.get?_insert_ne _ _ (h e List.mem_cons_self)

/-- The types of a job do not repeat, as they are kept in order. -/
theorem types_ne_of_sorted {e : String × ReplicaSpec} {rest : List (String × ReplicaSpec)}
    (h : (e :: rest).Pairwise fun x y => compare x.1 y.1 = .lt) : ∀ e' ∈ rest, e.1 ≠ e'.1 := by
  intro e' he' heq
  have hlt := (List.pairwise_cons.1 h).1 e' he'
  have hself : compare e'.1 e'.1 = .eq := Std.ReflCmp.compare_self
  rw [heq, hself] at hlt
  exact absurd hlt (by decide)

/-- What is counted of a type are the pods in its slots. -/
theorem get?_counted {entries : List (String × ReplicaSpec)} (s : JobStatus)
    (hsorted : entries.Pairwise fun x y => compare x.1 y.1 = .lt) {e : String × ReplicaSpec}
    (he : e ∈ entries) :
    (counted pods entries s).replicaStatuses.get? e.1 =
      some (.ofPods (Controller.podPlan e.1 e.2 pods).seated) := by
  induction entries generalizing s with
  | nil => exact absurd he (by simp)
  | cons first rest ih =>
    rcases List.mem_cons.1 he with rfl | he
    · -- The types that come after it in the list leave its counts alone.
      rw [counted, get?_counted_of_ne pods rest _ (types_ne_of_sorted hsorted)]
      exact Dict.get?_insert_self _ _ _
    · exact ih _ (List.pairwise_cons.1 hsorted).2 he

/-- So the counts of each type are those of its own pods, whichever types come before and after it. -/
theorem countsOf_counted {entries : List (String × ReplicaSpec)} (s : JobStatus)
    (hsorted : entries.Pairwise fun x y => compare x.1 y.1 = .lt) {e : String × ReplicaSpec}
    (he : e ∈ entries) :
    (counted pods entries s).countsOf e.1 = .ofPods (Controller.podPlan e.1 e.2 pods).seated := by
  unfold JobStatus.countsOf
  rw [get?_counted s hsorted he]
  rfl

/-- Pods that are counted already change nothing when they are counted again. -/
theorem counted_eq_self {entries : List (String × ReplicaSpec)} {s : JobStatus}
    (h : ∀ e ∈ entries, s.replicaStatuses.get? e.1 =
      some (.ofPods (Controller.podPlan e.1 e.2 pods).seated)) : counted pods entries s = s := by
  induction entries with
  | nil => rfl
  | cons e rest ih =>
    -- The counts that would be put under the type are there already.
    have hcount : Controller.countPods e.1 (Controller.podPlan e.1 e.2 pods) s = s := by
      have hsame : s.replicaStatuses.insert e.1 (.ofPods (Controller.podPlan e.1 e.2 pods).seated) =
          s.replicaStatuses := by
        refine Dict.ext_get? fun replicaType => ?_
        by_cases htype : replicaType = e.1
        · subst htype
          rw [Dict.get?_insert_self, h e List.mem_cons_self]
        · exact Dict.get?_insert_ne _ _ htype
      unfold Controller.countPods JobStatus.withCounts
      rw [hsame]
    rw [counted, hcount]
    exact ih fun e' he' => h e' (List.mem_cons_of_mem _ he')

/-! ## Judging -/

/-- The masters add that one of them is running, and then that the job is done, each only if it is so. -/
theorem judgeMaster_cases (job : Job) (desired : Int32) (counts : ReplicaCounts) (now : Timestamp)
    (s : JobStatus) : ∃ s',
      (0 < counts.active ∧ s' = s.note .running Reason.jobRunning ("XGBoostJob " ++ job.name ++ " is running.") now ∨
        counts.active ≤ 0 ∧ s' = s) ∧
      (desired - counts.succeeded ≠ 0 ∧ (job.judgeMaster desired counts now s).1 = s' ∨
        desired - counts.succeeded = 0 ∧ ∃ message, (job.judgeMaster desired counts now s).1 =
          (s'.complete now).note .succeeded Reason.jobSucceeded message now) := by
  -- The two decisions are independent, so the status between them is named.
  refine ⟨if 0 < counts.active then
    s.note .running Reason.jobRunning ("XGBoostJob " ++ job.name ++ " is running.") now else s, ?_, ?_⟩
  · split
    · next hactive => exact .inl ⟨hactive, rfl⟩
    · next hactive => exact .inr ⟨Int32.not_lt.1 hactive, rfl⟩
  · unfold judgeMaster
    simp only
    by_cases hdone : desired - counts.succeeded = 0
    · rw [if_pos hdone]
      exact .inr ⟨hdone, _, rfl⟩
    · rw [if_neg hdone]
      exact .inl ⟨hdone, rfl⟩

/-- The failed pods of a type add that the job is restarting if they are replaced, and else that it has
failed. -/
theorem judgeFailures_cases (job : Job) (replicaType : String) (restart : RestartPolicy) (failed : Int32)
    (now : Timestamp) (s : JobStatus) :
    failed ≤ 0 ∧ (job.judgeFailures replicaType restart failed now s).1 = s ∨
    (0 < failed ∧ restart = .exitCode) ∧ (∃ message,
      (job.judgeFailures replicaType restart failed now s).1 =
        s.note .restarting Reason.jobRestarting message now) ∨
    (0 < failed ∧ restart ≠ .exitCode) ∧ ∃ message,
      (job.judgeFailures replicaType restart failed now s).1 =
        (s.complete now).note .failed Reason.jobFailed message now := by
  unfold judgeFailures
  simp only
  by_cases hfailed : failed ≤ 0
  · rw [if_pos hfailed]
    exact .inl ⟨hfailed, rfl⟩
  · rw [if_neg hfailed]
    have hsome := Int32.not_le.1 hfailed
    -- Only the policy `ExitCode` turns failures into a restart.
    by_cases hrestart : restart = .exitCode
    · rw [if_pos hrestart]
      exact .inr (.inl ⟨⟨hsome, hrestart⟩, _, rfl⟩)
    · rw [if_neg hrestart]
      exact .inr (.inr ⟨⟨hsome, hrestart⟩, _, rfl⟩)

theorem judgeMaster_replicaStatuses (job : Job) (desired : Int32) (counts : ReplicaCounts) (now : Timestamp)
    (s : JobStatus) : (job.judgeMaster desired counts now s).1.replicaStatuses = s.replicaStatuses := by
  obtain ⟨s', hrunning, hdone⟩ := judgeMaster_cases job desired counts now s
  have hs' : s'.replicaStatuses = s.replicaStatuses := by
    rcases hrunning with ⟨-, rfl⟩ | ⟨-, rfl⟩
    · exact JobStatus.replicaStatuses_note _ _ _ _ _
    · rfl
  rcases hdone with ⟨-, h⟩ | ⟨-, message, h⟩
  · rw [h, hs']
  · rw [h, JobStatus.replicaStatuses_note]
    exact hs'

theorem judgeFailures_replicaStatuses (job : Job) (replicaType : String) (restart : RestartPolicy)
    (failed : Int32) (now : Timestamp) (s : JobStatus) :
    (job.judgeFailures replicaType restart failed now s).1.replicaStatuses = s.replicaStatuses := by
  obtain ⟨-, h⟩ | ⟨-, message, h⟩ | ⟨-, message, h⟩ := judgeFailures_cases job replicaType restart failed now s
  · rw [h]
  · rw [h, JobStatus.replicaStatuses_note]
  · rw [h, JobStatus.replicaStatuses_note]
    rfl

/-- Judging a type leaves the counts alone, as the judgements that it is made of do. -/
theorem judgeType_replicaStatuses (job : Job) (replicaType : String) (spec : ReplicaSpec) (desired : Int32)
    (now : Timestamp) (s : JobStatus) :
    (job.judgeType replicaType spec desired now s).1.replicaStatuses = s.replicaStatuses := by
  unfold judgeType
  simp only
  rw [judgeFailures_replicaStatuses]
  split
  · exact judgeMaster_replicaStatuses job desired _ now s
  · rfl

/-- Judging one type leaves the counts by which the others are judged. -/
theorem countsOf_judgeType (job : Job) (replicaType : String) (spec : ReplicaSpec) (desired : Int32) (now : Timestamp)
    (s : JobStatus) (other : String) :
    (job.judgeType replicaType spec desired now s).1.countsOf other = s.countsOf other := by
  unfold JobStatus.countsOf
  rw [judgeType_replicaStatuses]

/-- The masters never fail a job. -/
theorem isFailed_judgeMaster (job : Job) (desired : Int32) (counts : ReplicaCounts) (now : Timestamp)
    (s : JobStatus) : (job.judgeMaster desired counts now s).1.isFailed = s.isFailed := by
  -- Neither of the two conditions that the masters can add is a failure.
  obtain ⟨s', hrunning, hdone⟩ := judgeMaster_cases job desired counts now s
  have hs' : s'.isFailed = s.isFailed := by
    rcases hrunning with ⟨-, rfl⟩ | ⟨-, rfl⟩
    · exact (JobStatus.isFailed_note _ _ _ _ _).trans (Bool.or_false _)
    · rfl
  rcases hdone with ⟨-, h⟩ | ⟨-, message, h⟩
  · rw [h, hs']
  · rw [h, JobStatus.isFailed_note]
    exact (Bool.or_false _).trans hs'

/-- Failures fail a job just if there are some and the type is not replaced by exit codes. -/
theorem isFailed_judgeFailures (job : Job) (replicaType : String) (restart : RestartPolicy)
    (failed : Int32) (now : Timestamp) (s : JobStatus) :
    (job.judgeFailures replicaType restart failed now s).1.isFailed =
      (s.isFailed || (decide (restart ≠ .exitCode) && decide (0 < failed))) := by
  obtain ⟨hnone, h⟩ | ⟨⟨-, hrestart⟩, message, h⟩ | ⟨⟨hsome, hrestart⟩, message, h⟩ :=
    judgeFailures_cases job replicaType restart failed now s
  · rw [h, decide_eq_false (Int32.not_lt.2 hnone), Bool.and_false, Bool.or_false]
  · rw [h, JobStatus.isFailed_note, decide_eq_false (not_not_intro hrestart)]
    rfl
  · rw [h, JobStatus.isFailed_note, decide_eq_true hrestart, decide_eq_true hsome]
    rfl

/-- A type fails a job by its failures alone. -/
theorem isFailed_judgeType (job : Job) (replicaType : String) (spec : ReplicaSpec) (desired : Int32)
    (now : Timestamp) (s : JobStatus) :
    (job.judgeType replicaType spec desired now s).1.isFailed =
      (s.isFailed ||
        (decide (spec.restart ≠ .exitCode) && decide (0 < (s.countsOf replicaType).failed))) := by
  unfold judgeType
  simp only
  rw [isFailed_judgeFailures]
  split
  · rw [isFailed_judgeMaster]
  · rfl

/-- The types of a job have their number of replicas filled in. -/
def Filled (entries : List (String × ReplicaSpec)) : Prop := ∀ e ∈ entries, e.2.replicas = some e.2.count

/-- A type that is filled in is judged, and the others on top of it. -/
theorem status_judgeTypes_cons {e : String × ReplicaSpec} {rest : List (String × ReplicaSpec)}
    (hfilled : Filled (e :: rest)) (s : JobStatus) : (job.judgeTypes now (e :: rest) s).status =
      (job.judgeTypes now rest (job.judgeType e.1 e.2 e.2.count now s).1).status := by
  rw [judgeTypes, hfilled e List.mem_cons_self]

/-- Judging stops short at no type that is filled in. -/
theorem error_judgeTypes {entries : List (String × ReplicaSpec)} (hfilled : Filled entries) (s : JobStatus) :
    (job.judgeTypes now entries s).error = none := by
  induction entries generalizing s with
  | nil => rfl
  | cons e rest ih =>
    unfold judgeTypes
    simp only
    rw [hfilled e List.mem_cons_self]
    exact ih (fun e' he' => hfilled e' (List.mem_cons_of_mem _ he')) _

/-- What types bring about, each by its own counts, and none takes away holds after judging exactly if it held before
or any of them brings it about. -/
theorem judgeTypes_any {p : JobStatus → Bool} {q : String × ReplicaSpec → ReplicaCounts → Bool}
    (hstep : ∀ e s, p (job.judgeType e.1 e.2 e.2.count now s).1 = (p s || q e (s.countsOf e.1)))
    {entries : List (String × ReplicaSpec)} (hfilled : Filled entries) (s : JobStatus) :
    p (job.judgeTypes now entries s).status = (p s || entries.any fun e => q e (s.countsOf e.1)) := by
  induction entries generalizing s with
  | nil => exact (Bool.or_false _).symm
  | cons e rest ih =>
    have hrest := ih (fun e' he' => hfilled e' (List.mem_cons_of_mem _ he'))
      (job.judgeType e.1 e.2 e.2.count now s).1
    rw [status_judgeTypes_cons hfilled, hrest, hstep, List.any_cons, Bool.or_assoc]
    simp only [countsOf_judgeType]

/-- A job is failed by the types that have a failed pod and do not replace it. -/
theorem isFailed_judgeTypes {entries : List (String × ReplicaSpec)} (hfilled : Filled entries) (s : JobStatus) :
    (job.judgeTypes now entries s).status.isFailed =
      (s.isFailed || entries.any fun e =>
        decide (e.2.restart ≠ .exitCode) && decide (0 < (s.countsOf e.1).failed)) := by
  let breaks : String × ReplicaSpec → ReplicaCounts → Bool := fun e counts =>
    decide (e.2.restart ≠ .exitCode) && decide (0 < counts.failed)
  exact judgeTypes_any (q := breaks) (fun e s => isFailed_judgeType _ _ _ _ _ s) hfilled s

/-- A pod of a type whose pods are not replaced has failed. -/
def Broken (job : Job) (pods : List Pod) : Prop :=
  ∃ e ∈ job.spec.replicaSpecs.entries, e.2.restart ≠ .exitCode ∧
    0 < phaseCount "Failed" (Controller.podPlan e.1 e.2 pods).seated

/-- A job that is not at its end is failed by its pods exactly when one has failed that is not replaced. -/
theorem isFailed_assessed (hfilled : Filled job.spec.replicaSpecs.entries) (now : Timestamp) (pods : List Pod) :
    (job.assessed now pods).isFailed = true ↔ job.currentStatus.isFailed = true ∨ job.Broken pods := by
  unfold assessed judge Broken
  rw [isFailed_judgeTypes hfilled, isFailed_counted, isFailed_takenIn, Bool.or_eq_true, List.any_eq_true]
  refine or_congr_right (exists_congr fun e => and_congr_right fun he => ?_)
  rw [countsOf_counted _ job.spec.replicaSpecs.sorted he, Bool.and_eq_true_iff, decide_eq_true_iff,
    decide_eq_true_iff]
  exact and_congr_right fun _ => Controller.ofNat_phaseCount_pos

/-- The defaults fill in the number of replicas of every type. -/
theorem filled_withDefaults (job : Job) : Filled job.withDefaults.spec.replicaSpecs.entries := by
  intro e he
  obtain ⟨e', -, rfl⟩ := List.mem_map.1 he
  rfl

/-! ## Jobs without a verdict -/

/-- The counts of a type amount to a verdict: all masters have succeeded, or a pod has failed that is not
replaced. -/
def Decisive (e : String × ReplicaSpec) (counts : ReplicaCounts) : Bool :=
  isMasterType e.1 && decide (e.2.count - counts.succeeded = 0) ||
    decide (e.2.restart ≠ .exitCode) && decide (0 < counts.failed)

/-- A master gives a verdict just if all of it has succeeded. -/
theorem isFinished_judgeMaster (job : Job) (desired : Int32) (counts : ReplicaCounts) (now : Timestamp)
    (s : JobStatus) : (job.judgeMaster desired counts now s).1.isFinished =
      (s.isFinished || decide (desired - counts.succeeded = 0)) := by
  obtain ⟨s', hrunning, hdone⟩ := judgeMaster_cases job desired counts now s
  have hs' : s'.isFinished = s.isFinished := by
    rcases hrunning with ⟨-, rfl⟩ | ⟨-, rfl⟩
    · exact (JobStatus.isFinished_note _ _ _ _ _).trans (Bool.or_false _)
    · rfl
  rcases hdone with ⟨hundone, h⟩ | ⟨hdone, message, h⟩
  · rw [h, hs', decide_eq_false hundone, Bool.or_false]
  · rw [h, JobStatus.isFinished_note, decide_eq_true hdone]
    exact (Bool.or_true _).trans (Bool.or_true _).symm

/-- Failures give a verdict just if they fail the job. -/
theorem isFinished_judgeFailures (job : Job) (replicaType : String) (restart : RestartPolicy)
    (failed : Int32) (now : Timestamp) (s : JobStatus) :
    (job.judgeFailures replicaType restart failed now s).1.isFinished =
      (s.isFinished || (decide (restart ≠ .exitCode) && decide (0 < failed))) := by
  obtain ⟨hnone, h⟩ | ⟨⟨-, hrestart⟩, message, h⟩ | ⟨⟨hsome, hrestart⟩, message, h⟩ :=
    judgeFailures_cases job replicaType restart failed now s
  · rw [h, decide_eq_false (Int32.not_lt.2 hnone), Bool.and_false, Bool.or_false]
  · rw [h, JobStatus.isFinished_note, decide_eq_false (not_not_intro hrestart)]
    rfl
  · rw [h, JobStatus.isFinished_note, decide_eq_true hrestart, decide_eq_true hsome]
    rfl

/-- Whatever the masters have noted, the failures are judged on top of it, and either may be decisive. -/
theorem isFinished_judgeType (e : String × ReplicaSpec) (s : JobStatus) :
    (job.judgeType e.1 e.2 e.2.count now s).1.isFinished = (s.isFinished || Decisive e (s.countsOf e.1)) := by
  unfold judgeType Decisive
  simp only
  rw [isFinished_judgeFailures]
  cases isMasterType e.1 with
  | true => rw [if_pos rfl, isFinished_judgeMaster, Bool.true_and, Bool.or_assoc]
  | false => rw [if_neg Bool.false_ne_true, Bool.false_and, Bool.false_or]

/-- Judging leaves a job without a verdict exactly when it had none and no type is decisive. -/
theorem isFinished_judgeTypes {entries : List (String × ReplicaSpec)} (hfilled : Filled entries)
    (s : JobStatus) :
    (job.judgeTypes now entries s).status.isFinished =
      (s.isFinished || entries.any fun e => Decisive e (s.countsOf e.1)) :=
  judgeTypes_any isFinished_judgeType hfilled s

/-- Masters that have not all succeeded add at most that one is running. -/
theorem judgeMaster_of_undone {desired : Int32} {counts : ReplicaCounts} (h : desired - counts.succeeded ≠ 0)
    (s : JobStatus) : (job.judgeMaster desired counts now s).1 =
      if 0 < counts.active then
        s.note .running Reason.jobRunning ("XGBoostJob " ++ job.name ++ " is running.") now
      else s := by
  obtain ⟨s', hrunning, ⟨-, hs'⟩ | ⟨hdone, -⟩⟩ := judgeMaster_cases job desired counts now s
  · rw [hs']
    rcases hrunning with ⟨hactive, rfl⟩ | ⟨hidle, rfl⟩
    · rw [if_pos hactive]
    · rw [if_neg (Int32.not_lt.2 hidle)]
  · exact absurd hdone h

/-- Failed pods that are replaced add that the job is restarting. -/
theorem judgeFailures_of_replaced (job : Job) (replicaType : String) {restart : RestartPolicy} {failed : Int32}
    (h : 0 < failed → restart = .exitCode) (now : Timestamp) (s : JobStatus) : ∃ message,
      (job.judgeFailures replicaType restart failed now s).1 =
        if 0 < failed then s.note .restarting Reason.jobRestarting message now else s := by
  obtain ⟨hnone, hs⟩ | ⟨⟨hsome, -⟩, message, hs⟩ | ⟨⟨hsome, hrestart⟩, -⟩ :=
    judgeFailures_cases job replicaType restart failed now s
  · -- Nothing is written, so any message will do.
    exact ⟨"", by rw [hs, if_neg (Int32.not_lt.2 hnone)]⟩
  · exact ⟨message, by rw [hs, if_pos hsome]⟩
  · exact absurd (h hsome) hrestart

/-- A type that is not decisive adds at most that the master is running and that pods are replaced. -/
theorem judgeType_of_not_decisive {e : String × ReplicaSpec} {s : JobStatus} (job : Job) (now : Timestamp)
    (h : Decisive e (s.countsOf e.1) = false) : ∃ running restarting : String,
    (job.judgeType e.1 e.2 e.2.count now s).1 =
      let s' := if isMasterType e.1 = true ∧ 0 < (s.countsOf e.1).active then
          s.note .running Reason.jobRunning running now else s
      if 0 < (s.countsOf e.1).failed then s'.note .restarting Reason.jobRestarting restarting now else s' := by
  unfold Decisive at h
  rw [Bool.or_eq_false_iff, Bool.and_eq_false_iff, Bool.and_eq_false_iff, decide_eq_false_iff_not,
    decide_eq_false_iff_not, decide_eq_false_iff_not, Decidable.not_not] at h
  obtain ⟨hundone, hreplaced⟩ := h
  have hrestart : 0 < (s.countsOf e.1).failed → e.2.restart = .exitCode := fun hfailed =>
    hreplaced.resolve_right fun hnot => hnot hfailed
  unfold judgeType
  simp only
  cases hmaster : isMasterType e.1 with
  | true =>
    -- A master is not decisive, so not all of them have succeeded.
    have hundone := hundone.resolve_left (by simp [hmaster])
    simp only [if_true, true_and]
    rw [judgeMaster_of_undone hundone]
    obtain ⟨restarting, hnoted⟩ := judgeFailures_of_replaced job e.1 hrestart now _
    exact ⟨_, restarting, hnoted⟩
  | false =>
    -- Workers are never noted as running, so any message stands for the one that is not written.
    simp only [Bool.false_eq_true, if_false, false_and]
    obtain ⟨restarting, hnoted⟩ := judgeFailures_of_replaced job e.1 hrestart now s
    exact ⟨"", restarting, hnoted⟩

end Job

end TrainingJobs
