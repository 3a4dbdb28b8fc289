/-
How long a success stands.

A job that is done stays done: no pass takes `Succeeded` from it. Whether it stays without `Failed` is another
matter. A pass looks at the limits of a job before it asks whether there is a verdict, so a job that is done
can still go over its deadline or its backoff limit, and then it is given up on top of it; and a spec that is
no longer acceptable fails the job whatever its verdict. **These are the only ways.** `success_stands_iff` says
so for a whole course of passes, between which anything may happen to the job but a write of its status.
-/
import TrainingJobs.Proofs.Conditions

set_option autoImplicit false

namespace TrainingJobs

open Controller

/-! ## What a pass makes of the verdict -/

namespace Job

/-- A pass that ends well fails the stored job: its spec is not acceptable, or it goes over a limit and is not
deleted at once. -/
def Condemned (stored : Job) (now : Timestamp) (c : Controller MemoryStore) : Prop :=
  let job := stored.withDefaults
  (∃ fault, job.spec.fault? = some fault) ∨
    job.spec.fault? = none ∧ ¬ job.HeldUp now c ∧
      job.GivenUp now (job.podsIn c.store) (c.retries.count job.key)

variable {job : Job} {now : Timestamp}

/-- A look at a job that is done leaves it done, and fails it exactly when it is given up. -/
theorem verdict_resolved {pods : List Pod} {retries : Nat} (hs : job.currentStatus.isSucceeded = true) :
    ((job.resolved now pods retries).statusAfter job.currentStatus).isSucceeded = true ∧
      (((job.resolved now pods retries).statusAfter job.currentStatus).isFailed = true ↔
        job.currentStatus.isFailed = true ∨ job.GivenUp now pods retries) := by
  unfold resolved
  have hfinished : (job.takenIn now).isFinished = true := by
    rw [isFinished_takenIn, JobStatus.isFinished, hs, Bool.true_or]
  simp only [hfinished, Bool.true_or, if_true]
  -- The status that is to be written is done in any case, and failed if a limit was gone over.
  rcases hlimit : job.exceeded? pods retries (job.takenIn now) now with _ | message
  · rw [or_iff_left (not_givenUp_of_within hlimit)]
    by_cases hexpired : job.Expired now (job.closed now none)
    · rw [ended_of_expired hexpired]
      exact ⟨hs, Iff.rfl⟩
    · obtain ⟨hsucceeded, hfailed⟩ := verdict_written job now (job.closed now none)
      rw [ended_of_not_expired hexpired, hsucceeded, hfailed, isSucceeded_closed, isFailed_closed,
        Option.isSome_none, Bool.or_false]
      exact ⟨hs, Iff.rfl⟩
  · rw [givenUp_iff_of_over hlimit]
    by_cases hexpired : job.Expired now (job.closed now (some message))
    · rw [ended_of_expired hexpired]
      exact ⟨hs, (or_iff_left (not_not_intro hexpired)).symm⟩
    · obtain ⟨hsucceeded, hfailed⟩ := verdict_written job now (job.closed now (some message))
      rw [ended_of_not_expired hexpired, hsucceeded, hfailed, isSucceeded_closed, isFailed_closed,
        Option.isSome_some, Bool.or_true]
      exact ⟨hs, iff_of_true rfl (.inr hexpired)⟩

/-- A pass that ends well leaves a job done that is done, and fails it exactly when it is condemned. -/
theorem verdict_outlook {stored : Job} (now : Timestamp) (c : Controller MemoryStore)
    (hs : stored.currentStatus.isSucceeded = true) :
    ((stored.outlook now c).statusAfter stored.currentStatus).isSucceeded = true ∧
      (((stored.outlook now c).statusAfter stored.currentStatus).isFailed = true ↔
        stored.currentStatus.isFailed = true ∨ stored.Condemned now c) := by
  unfold outlook Condemned
  simp only
  -- A spec that is not acceptable fails the job whatever else is the case.
  rcases stored.withDefaults.spec.fault? with _ | fault
  · have hvalid : ¬ ∃ fault, (none : Option SpecFault) = some fault := by
      rintro ⟨fault, h⟩
      exact absurd h (by simp)
    simp only [or_iff_right hvalid, true_and]
    by_cases hheld : stored.withDefaults.HeldUp now c
    · rw [if_pos hheld]
      exact ⟨hs, by simp [Resolution.statusAfter, hheld]⟩
    · rw [if_neg hheld]
      simp only [hheld, not_false_eq_true, true_and]
      exact verdict_resolved hs
  · simp only [Option.some.injEq, exists_eq', true_or, or_true, iff_true]
    split
    · next hfailed => exact ⟨hs, hfailed⟩
    · constructor
      · change (JobStatus.note _ _ _ _ _).isSucceeded = true
        rw [JobStatus.isSucceeded_note]
        exact Bool.or_eq_true_iff.2 (.inl hs)
      · change (JobStatus.note _ _ _ _ _).isFailed = true
        rw [JobStatus.isFailed_note, beq_self_eq_true, Bool.or_true]

end Job

/-! ## A course of passes -/

/-- A pass, by when it is made and what it finds. -/
structure Visit where
  now : Timestamp
  found : Controller MemoryStore

/-- The pass ends well and fails the job at `a`. -/
def Visit.Overrules (key : String) (a : Address) (v : Visit) : Prop :=
  (∃ outcome, ((sync v.now key).run v.found).1 = .ok outcome) ∧
    ∃ stored, v.found.store.jobs.get? a = some stored ∧ stored.Condemned v.now v.found

/-- Nobody but the controller has written a status to the job at `a`. It may have gone, and anything else may
have happened to it and around it. -/
def Undisturbed (a : Address) (c c' : Controller MemoryStore) : Prop :=
  ∀ job', c'.store.jobs.get? a = some job' → job'.address = a ∧
    ∃ job, c.store.jobs.get? a = some job ∧ job'.currentStatus = job.currentStatus

/-- The passes over a job, and where they lead, when nobody else writes a status to it. -/
inductive Course (key : String) (a : Address) (start : Controller MemoryStore) :
    List Visit → Controller MemoryStore → Prop
  | start : Course key a start [] start
  /-- A pass is made. -/
  | visit {visits : List Visit} {c : Controller MemoryStore} (now : Timestamp) (h : Course key a start visits c) :
    Course key a start (visits ++ [⟨now, c⟩]) ((sync now key).run c).2
  /-- Something else happens. -/
  | aside {visits : List Visit} {c c' : Controller MemoryStore} (h : Course key a start visits c)
    (hc : Undisturbed a c c') : Course key a start visits c'

/-- What a course of passes over a job that was done leaves of it. -/
def StillDone (key : String) (a : Address) (visits : List Visit) (c : Controller MemoryStore) : Prop :=
  ∀ job, c.store.jobs.get? a = some job → job.address = a ∧ job.currentStatus.isSucceeded = true ∧
    (job.currentStatus.isFailed = true ↔ ∃ v ∈ visits, v.Overrules key a)

variable {key : String} {a : Address} {visits : List Visit} {c c' : Controller MemoryStore}

/-- What others do leaves a job done. -/
theorem StillDone.aside (h : StillDone key a visits c) (hc : Undisturbed a c c') :
    StillDone key a visits c' := by
  intro job' hjob'
  obtain ⟨haddress, job, hjob, hstatus⟩ := hc job' hjob'
  rw [hstatus]
  exact ⟨haddress, (h job hjob).2⟩

/-- One more pass leaves a job done that was, and it has failed if that pass or an earlier one failed it. -/
theorem StillDone.visit (hkey : splitKey? key = some (a.ns, a.name)) (h : StillDone key a visits c)
    (now : Timestamp) : StillDone key a (visits ++ [⟨now, c⟩]) ((sync now key).run c).2 := by
  intro job' hjob'
  have hvisits : (∃ v ∈ visits ++ [⟨now, c⟩], v.Overrules key a) ↔
      (∃ v ∈ visits, v.Overrules key a) ∨ Visit.Overrules key a ⟨now, c⟩ := by
    simp only [List.mem_append, List.mem_singleton, or_and_right, exists_or, exists_eq_left]
  rw [hvisits]
  obtain ⟨stored, hstored, hsame, hstatus⟩ :=
    exists_stored_of_sync now hkey (fun stored hstored => (h stored hstored).1) hjob'
  obtain ⟨haddress, hsucceeded, hfailed⟩ := h stored hstored
  refine ⟨hsame.address.trans haddress, ?_⟩
  obtain ⟨⟨e, herror⟩, hstatus⟩ | ⟨hended, hstatus⟩ := hstatus
  · -- A pass that fails has written nothing, and counts for nothing.
    have hnot : ¬ Visit.Overrules key a ⟨now, c⟩ := by
      rintro ⟨⟨outcome, houtcome⟩, -⟩
      exact absurd (herror.symm.trans houtcome) (by simp)
    rw [hstatus]
    exact ⟨hsucceeded, by rw [hfailed, or_iff_left hnot]⟩
  · have hoverrules : Visit.Overrules key a ⟨now, c⟩ ↔ stored.Condemned now c := by
      unfold Visit.Overrules
      simp only [hended, hstored, true_and, Option.some.injEq, exists_eq_left']
    obtain ⟨hs, hf⟩ := Job.verdict_outlook now c hsucceeded
    rw [hstatus, hoverrules, ← hfailed]
    exact ⟨hs, hf⟩

/-- **A job that is done stays done, and a success stands without a failure exactly as long as no pass that
ends well finds the job over a limit or its spec not acceptable.** -/
theorem success_stands_iff {start : Controller MemoryStore} {stored job : Job}
    (hkey : splitKey? key = some (a.ns, a.name)) (hstored : start.store.jobs.get? a = some stored)
    (haddress : stored.address = a) (hsucceeded : stored.currentStatus.isSucceeded = true)
    (hfailed : stored.currentStatus.isFailed = false) (hcourse : Course key a start visits c)
    (hjob : c.store.jobs.get? a = some job) :
    job.currentStatus.isSucceeded = true ∧
      (job.currentStatus.isFailed = false ↔ ∀ v ∈ visits, ¬ v.Overrules key a) := by
  have hstill : StillDone key a visits c := by
    clear hjob
    -- The equivalence goes along the course: each pass adds itself to those that overrule, or does not.
    induction hcourse with
    | start =>
      intro job hjob
      rw [hstored, Option.some.injEq] at hjob
      subst hjob
      refine ⟨haddress, hsucceeded, ?_⟩
      simp [hfailed]
    | visit now _ ih => exact ih.visit hkey now
    | aside _ hc ih => exact ih.aside hc
  obtain ⟨-, hs, hf⟩ := hstill job hjob
  refine ⟨hs, ?_⟩
  rw [← Bool.not_eq_true, hf]
  exact ⟨fun h v hv ho => h ⟨v, hv, ho⟩, fun h => fun ⟨v, hv, ho⟩ => h v hv ho⟩

/-- A job that was done within a minute, which is how long it may be active. -/
def doneInTime : Controller MemoryStore :=
  sampleStart (sampleJob { activeDeadlineSeconds := some 60 } [(masterType, sampleType 1 .never)] (some {
    conditions := [.holding .created Reason.jobCreated "XGBoostJob iris is created." (sampleTime 0),
      .holding .succeeded Reason.jobSucceeded "XGBoostJob iris is successfully completed." (sampleTime 30)]
    replicaStatuses := .ofList [(masterType, { succeeded := 1 })]
    startTime := some (sampleTime 0)
    completionTime := some (sampleTime 30) }))

/-- A pass within the minute does not touch the success. -/
theorem success_stands_within_deadline :
    ∃ job, ((sync (sampleTime 59) sampleKey).run doneInTime).2.store.jobs.get? sampleAddress = some job ∧
      job.currentStatus.isSucceeded = true ∧
      (job.currentStatus.isFailed = false ↔
        ∀ v ∈ [(⟨sampleTime 59, doneInTime⟩ : Visit)], ¬ v.Overrules sampleKey sampleAddress) := by
  have hstart : (doneInTime.store.jobs.get? sampleAddress).map (fun job =>
      (job.address, job.currentStatus.isSucceeded, job.currentStatus.isFailed)) =
      some (sampleAddress, true, false) := by decide +kernel
  obtain ⟨stored, hstored, hfound⟩ := Option.map_eq_some_iff.1 hstart
  rw [Prod.mk.injEq, Prod.mk.injEq] at hfound
  obtain ⟨haddress, hsucceeded, hfailed⟩ := hfound
  rcases hjob : ((sync (sampleTime 59) sampleKey).run doneInTime).2.store.jobs.get? sampleAddress with _ | job
  · exact absurd hjob (by decide +kernel)
  · exact ⟨job, rfl, success_stands_iff (by decide +kernel) hstored haddress hsucceeded hfailed
      (.visit (sampleTime 59) .start) hjob⟩

/-- A pass after the minute fails the job, which has been done for a while. -/
theorem success_overruled_by_deadline :
    ((doneInTime.store.jobs.get? sampleAddress).map fun job =>
        (job.currentStatus.isSucceeded, job.currentStatus.isFailed)) = some (true, false) ∧
      Course sampleKey sampleAddress doneInTime [⟨sampleTime 120, doneInTime⟩]
        ((sync (sampleTime 120) sampleKey).run doneInTime).2 ∧
      ((((sync (sampleTime 120) sampleKey).run doneInTime).2.store.jobs.get? sampleAddress).map fun job =>
        (job.currentStatus.isSucceeded, job.currentStatus.isFailed)) = some (true, true) :=
  ⟨by decide +kernel, .visit (sampleTime 120) .start, by decide +kernel⟩

end TrainingJobs
