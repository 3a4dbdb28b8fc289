/-
When a job knows the time of its verdict.

A job that gets its verdict from its pods, or goes over a limit, gets the time of it in the same write
(`JobStatus.Stamped`). The job that is turned down for its spec does not, and nothing makes up for that except that
it goes over a limit later on, with a spec that is acceptable again. **There is no other way**:
`completion_marked_iff` says so for every course of passes over a job that was submitted without a status. A job
without the time of its verdict never comes to the end of its time to live.
-/
import TrainingJobs.Proofs.Finality
import TrainingJobs.Proofs.Judgement

set_option autoImplicit false

namespace TrainingJobs

open Controller

namespace JobStatus

variable {s : JobStatus}

/-- The time of the verdict is known just if there is a verdict. -/
def Stamped (s : JobStatus) : Prop := s.completionTime.isSome = s.isFinished

instance (s : JobStatus) : Decidable s.Stamped := inferInstanceAs (Decidable (_ = _))

/-- There is a verdict without its time. -/
def Unstamped (s : JobStatus) : Prop := s.isFinished = true ∧ s.completionTime.isSome = false

/-- There is no time of a verdict without the verdict. -/
def Truthful (s : JobStatus) : Prop := s.completionTime.isSome = true → s.isFinished = true

/-- A truthful status without a verdict has no stamp. -/
theorem Truthful.isSome_eq_false (h : s.Truthful) (hopen : s.isFinished = false) :
    s.completionTime.isSome = false := by
  rw [← Bool.not_eq_true]
  intro hsome
  exact Bool.false_ne_true (hopen.symm.trans (h hsome))

/-- Stamped exactly with a verdict is truthful in particular. -/
theorem Stamped.truthful (h : s.Stamped) : s.Truthful := fun hsome => h ▸ hsome

/-- A truthful status is stamped unless its verdict lacks the stamp. -/
theorem Truthful.stamped_iff (h : s.Truthful) : s.Stamped ↔ ¬ s.Unstamped := by
  unfold Stamped Unstamped
  cases hfinished : s.isFinished with
  | true => cases s.completionTime.isSome <;> decide
  | false => simp [h.isSome_eq_false hfinished]

@[simp] theorem completionTime_note (s : JobStatus) (kind : ConditionKind) (reason message : String)
    (now : Timestamp) : (s.note kind reason message now).completionTime = s.completionTime := by
  obtain ⟨-, h⟩ | ⟨-, since, h⟩ := note_cases s kind reason message now <;> rw [h]

/-- Closing the counts does not touch the stamp. -/
theorem completionTime_settled (s : JobStatus) : s.settled.completionTime = s.completionTime := by
  unfold settled
  split <;> rfl

/-- A condition that is no verdict changes nothing about either. -/
theorem Stamped.note (h : s.Stamped) {kind : ConditionKind} (hkind : kind.isVerdict = false)
    (reason message : String) (now : Timestamp) : (s.note kind reason message now).Stamped := by
  unfold Stamped
  rw [completionTime_note, isFinished_note, hkind, Bool.or_false]
  exact h

/-- A verdict that is noted with its time is stamped, whatever was known before. -/
theorem stamped_complete_note (s : JobStatus) {kind : ConditionKind} (hkind : kind.isVerdict = true)
    (reason message : String) (now : Timestamp) : ((s.complete now).note kind reason message now).Stamped := by
  unfold Stamped
  rw [completionTime_note, isFinished_note, hkind, Bool.or_true]
  rfl

end JobStatus

namespace Job

variable {job : Job} {s : JobStatus} {now : Timestamp}

/-! ## The verdict from the pods -/

/-- A master that is done gives the verdict and the stamp together. -/
theorem stamped_judgeMaster (h : s.Stamped) (desired : Int32) (counts : ReplicaCounts) :
    (job.judgeMaster desired counts now s).1.Stamped := by
  obtain ⟨s', hrunning, hdone⟩ := judgeMaster_cases job desired counts now s
  obtain ⟨-, hs⟩ | ⟨-, message, hs⟩ := hdone
  · rw [hs]
    obtain ⟨-, rfl⟩ | ⟨-, rfl⟩ := hrunning
    · exact h.note rfl _ _ now
    · exact h
  · rw [hs]
    exact s'.stamped_complete_note rfl _ _ now

/-- So do failures that no restart can mend. -/
theorem stamped_judgeFailures (h : s.Stamped) (replicaType : String) (restart : RestartPolicy) (failed : Int32) :
    (job.judgeFailures replicaType restart failed now s).1.Stamped := by
  obtain ⟨-, hs⟩ | ⟨-, message, hs⟩ | ⟨-, message, hs⟩ :=
    judgeFailures_cases job replicaType restart failed now s
  · rw [hs]
    exact h
  · rw [hs]
    exact h.note rfl _ _ now
  · rw [hs]
    exact s.stamped_complete_note rfl _ _ now

/-- One replica type is both judgements after each other. -/
theorem stamped_judgeType (h : s.Stamped) (replicaType : String) (spec : ReplicaSpec) (desired : Int32) :
    (job.judgeType replicaType spec desired now s).1.Stamped := by
  unfold judgeType
  simp only
  refine stamped_judgeFailures ?_ _ _ _
  cases isMasterType replicaType with
  | true => exact stamped_judgeMaster h _ _
  | false => exact h

/-- So judging all types keeps verdict and stamp together, by induction on the types. -/
theorem stamped_judgeTypes (entries : List (String × ReplicaSpec)) (h : s.Stamped) :
    (job.judgeTypes now entries s).status.Stamped := by
  induction entries generalizing s with
  | nil => exact h
  | cons e rest ih =>
    unfold judgeTypes
    simp only
    split
    · exact h
    · exact ih (stamped_judgeType h _ _ _)

/-- Taking a job in does not stamp it. -/
theorem completionTime_takenIn (job : Job) (now : Timestamp) :
    (job.takenIn now).completionTime = job.currentStatus.completionTime := by
  unfold takenIn
  simp only
  split
  · rfl
  · exact JobStatus.completionTime_note _ _ _ _ _

/-- A look at the pods of a stamped job leaves it stamped. -/
theorem stamped_assessed (h : job.currentStatus.Stamped) (now : Timestamp) (pods : List Pod) :
    (job.assessed now pods).Stamped := by
  unfold assessed judge
  refine stamped_judgeTypes _ ?_
  obtain ⟨counts, hcounted⟩ := exists_counted pods job.spec.replicaSpecs.entries (job.takenIn now)
  rw [hcounted]
  change (job.takenIn now).completionTime.isSome = (job.takenIn now).isFinished
  rw [completionTime_takenIn, isFinished_takenIn]
  exact h

/-! ## The end of a job -/

/-- A job that is brought to its end gets the time of the verdict if it is given up. -/
theorem isSome_completionTime_closed (job : Job) (now : Timestamp) (failure : Option String) :
    (job.closed now failure).completionTime.isSome =
      (job.currentStatus.completionTime.isSome || failure.isSome) := by
  unfold closed
  rw [JobStatus.completionTime_settled]
  cases failure with
  | none => rw [giveUp, completionTime_takenIn, Option.isSome_none, Bool.or_false]
  | some message =>
    rw [giveUp, JobStatus.completionTime_note, Option.isSome_some, Bool.or_true]
    rfl

/-- Whether it is written or known already, the stamp is that of the status. -/
theorem completionTime_written (job : Job) (now : Timestamp) (status : JobStatus) :
    ((job.written now status).statusAfter job.currentStatus).completionTime = status.completionTime := by
  unfold written
  split
  · rfl
  · next h =>
    rw [Decidable.not_not.1 h]
    rfl

/-! ## A pass -/

/-- A pass that ends well turns the stored job down, which had no verdict. -/
def TurnedDown (stored : Job) : Prop :=
  (∃ fault, stored.withDefaults.spec.fault? = some fault) ∧ stored.currentStatus.isFinished = false

/-- A pass that ends well gives the stored job up, since it is over a limit. -/
def Relinquished (stored : Job) (now : Timestamp) (c : Controller MemoryStore) : Prop :=
  let job := stored.withDefaults
  job.spec.fault? = none ∧ ¬ job.HeldUp now c ∧
    job.GivenUp now (job.podsIn c.store) (c.retries.count job.key)

/-- What the end of a job makes of the time of its verdict, if it is the end: it is missing if it was and the job is
not given up. -/
theorem unstamped_ended {pods : List Pod} {retries : Nat}
    (hend : ((job.takenIn now).isFinished || (job.exceeded? pods retries (job.takenIn now) now).isSome) = true)
    (h : job.currentStatus.Truthful) :
    let status := (job.resolved now pods retries).statusAfter job.currentStatus
    status.Truthful ∧ (status.Unstamped ↔ job.currentStatus.Unstamped ∧ ¬ job.GivenUp now pods retries) := by
  have hresolved : job.resolved now pods retries =
      job.ended now (job.closed now (job.exceeded? pods retries (job.takenIn now) now)) := by
    unfold resolved
    simp only [hend, if_true]
  rw [hresolved]
  rw [isFinished_takenIn] at hend
  unfold GivenUp
  generalize job.exceeded? pods retries (job.takenIn now) now = failure at hend
  by_cases hexpired : job.Expired now (job.closed now failure)
  · -- The job goes, and is not given up before.
    have hgoes : ¬ ∃ message, failure = some message ∧ ¬ job.Expired now (job.closed now (some message)) := by
      rintro ⟨message, rfl, hstays⟩
      exact hstays hexpired
    rw [ended_of_expired hexpired]
    exact ⟨h, (and_iff_left hgoes).symm⟩
  · rw [ended_of_not_expired hexpired]
    have hfinished := isFinished_written job now (job.closed now failure)
    rw [isFinished_closed, hend] at hfinished
    refine ⟨fun _ => hfinished, ?_⟩
    unfold JobStatus.Unstamped
    rw [hfinished, completionTime_written, isSome_completionTime_closed]
    cases failure with
    | none =>
      rw [Option.isSome_none, Bool.or_false] at hend
      simp [hend]
    | some message => simp [hexpired]

/-- A job that is neither at its end nor over a limit gets its time with the verdict. -/
theorem stamped_resolved {pods : List Pod} {retries : Nat}
    (hopen : ¬ ((job.takenIn now).isFinished || (job.exceeded? pods retries (job.takenIn now) now).isSome) = true)
    (h : job.currentStatus.Truthful) :
    job.currentStatus.isFinished = false ∧
      ((job.resolved now pods retries).statusAfter job.currentStatus).Stamped := by
  have hresolved : job.resolved now pods retries = job.written now (job.assessed now pods) := by
    unfold resolved
    simp only [if_neg hopen]
  rw [isFinished_takenIn, Bool.not_eq_true, Bool.or_eq_false_iff] at hopen
  -- Without a verdict there was no time of it, either.
  have hstamped : job.currentStatus.Stamped := by
    unfold JobStatus.Stamped
    rw [hopen.1, h.isSome_eq_false hopen.1]
  refine ⟨hopen.1, ?_⟩
  unfold JobStatus.Stamped
  rw [hresolved, completionTime_written, isFinished_written]
  exact stamped_assessed hstamped now pods

/-- After a pass that ends well, the time of the verdict is missing if the pass turned the job down, or if it was
missing before and the pass did not give the job up. -/
theorem unstamped_outlook {stored : Job} (now : Timestamp) (c : Controller MemoryStore)
    (h : stored.currentStatus.Truthful) :
    let status := (stored.outlook now c).statusAfter stored.currentStatus
    status.Truthful ∧ (status.Unstamped ↔
      stored.TurnedDown ∨ stored.currentStatus.Unstamped ∧ ¬ stored.Relinquished now c) := by
  unfold outlook TurnedDown Relinquished
  simp only
  rcases stored.withDefaults.spec.fault? with _ | fault
  · simp only [reduceCtorEq, exists_false, false_and, false_or, true_and]
    by_cases hheld : stored.withDefaults.HeldUp now c
    · simp only [hheld, not_true_eq_false, false_and, not_false_eq_true, and_true]
      exact ⟨h, Iff.rfl⟩
    · simp only [hheld, not_false_eq_true, true_and]
      by_cases hend : ((stored.withDefaults.takenIn now).isFinished ||
          (stored.withDefaults.exceeded? (stored.withDefaults.podsIn c.store)
            (c.retries.count stored.withDefaults.key) (stored.withDefaults.takenIn now) now).isSome) = true
      · exact unstamped_ended hend h
      · obtain ⟨hopen, hstamped⟩ := stamped_resolved hend h
        exact ⟨hstamped.truthful, iff_of_false (hstamped.truthful.stamped_iff.1 hstamped)
          fun hbefore => Bool.false_ne_true (hopen.symm.trans hbefore.1.1)⟩
  · simp only [Option.some.injEq, exists_eq', true_and, reduceCtorEq, false_and, not_false_eq_true, and_true]
    split
    · next hfailed =>
      have hfinished : stored.currentStatus.isFinished = true := Bool.or_eq_true_iff.2 (.inr hfailed)
      exact ⟨h, (or_iff_right (by rw [hfinished]; exact Bool.noConfusion)).symm⟩
    · -- The verdict is noted, and nothing else of the status changes.
      have hfinished : (stored.withDefaults.rejected now fault).isFinished = true := by
        unfold rejected
        rw [JobStatus.isFinished_note]
        exact Bool.or_true _
      have htime : (stored.withDefaults.rejected now fault).completionTime = stored.currentStatus.completionTime :=
        JobStatus.completionTime_note _ _ _ _ _
      refine ⟨fun _ => hfinished, ?_⟩
      change (stored.withDefaults.rejected now fault).isFinished = true ∧
        (stored.withDefaults.rejected now fault).completionTime.isSome = false ↔ _
      rw [hfinished, htime]
      unfold JobStatus.Unstamped
      cases hbefore : stored.currentStatus.isFinished with
      | true => simp
      | false => simp [h.isSome_eq_false hbefore]

end Job

/-! ## A course of passes -/

/-- The pass ends well and turns down the job at `a`, which had no verdict. -/
def Visit.TurnsDown (key : String) (a : Address) (v : Visit) : Prop :=
  (∃ outcome, ((sync v.now key).run v.found).1 = .ok outcome) ∧
    ∃ stored, v.found.store.jobs.get? a = some stored ∧ stored.TurnedDown

/-- The pass ends well and gives up the job at `a`. -/
def Visit.GivesUp (key : String) (a : Address) (v : Visit) : Prop :=
  (∃ outcome, ((sync v.now key).run v.found).1 = .ok outcome) ∧
    ∃ stored, v.found.store.jobs.get? a = some stored ∧ stored.Relinquished v.now v.found

/-- One of the passes turned the job down, and none after it gave it up. -/
def LeftUnstamped (key : String) (a : Address) (visits : List Visit) : Prop :=
  ∃ before v after, visits = before ++ v :: after ∧ v.TurnsDown key a ∧ ∀ w ∈ after, ¬ w.GivesUp key a

/-- What a course of passes over a job that was submitted leaves of it. -/
def Marked (key : String) (a : Address) (visits : List Visit) (c : Controller MemoryStore) : Prop :=
  ∀ job, c.store.jobs.get? a = some job → job.address = a ∧ job.currentStatus.Truthful ∧
    (job.currentStatus.Unstamped ↔ LeftUnstamped key a visits)

section Course

variable {key : String} {a : Address} {visits : List Visit} {c c' : Controller MemoryStore}

/-- One more pass leaves a job without a stamp if it turns the job down, or if the job was without one and the pass
does not give it up. -/
theorem leftUnstamped_append (v : Visit) : LeftUnstamped key a (visits ++ [v]) ↔
    v.TurnsDown key a ∨ LeftUnstamped key a visits ∧ ¬ v.GivesUp key a := by
  constructor
  · rintro ⟨before, w, after, hvisits, hdown, hafter⟩
    -- The pass that turned the job down is the last one, or it is one of those before.
    obtain rfl | ⟨after, last, rfl⟩ := List.eq_nil_or_concat after
    · obtain ⟨-, hlast⟩ := List.append_inj' hvisits rfl
      obtain rfl : v = w := by simpa using hlast
      exact .inl hdown
    · rw [List.concat_eq_append, ← List.cons_append, ← List.append_assoc] at hvisits
      obtain ⟨hinit, hlast⟩ := List.append_inj' hvisits rfl
      obtain rfl : v = last := by simpa using hlast
      refine .inr ⟨⟨before, w, after, hinit, hdown, fun x hx => hafter x ?_⟩, hafter v ?_⟩
      · exact List.concat_eq_append ▸ List.mem_append_left _ hx
      · exact List.concat_eq_append ▸ List.mem_append_right _ List.mem_cons_self
  · rintro (hdown | ⟨⟨before, w, after, rfl, hdown, hafter⟩, hlast⟩)
    · exact ⟨visits, v, [], rfl, hdown, fun w hw => absurd hw List.not_mem_nil⟩
    · refine ⟨before, w, after ++ [v], by simp, hdown, fun x hx => ?_⟩
      rcases List.mem_append.1 hx with hx | hx
      · exact hafter x hx
      · exact List.mem_singleton.1 hx ▸ hlast

/-- What others do leaves the record of the job alone, and with it the stamp. -/
theorem Marked.aside (h : Marked key a visits c) (hc : Undisturbed a c c') : Marked key a visits c' := by
  intro job' hjob'
  obtain ⟨haddress, job, hjob, hstatus⟩ := hc job' hjob'
  rw [hstatus]
  exact ⟨haddress, (h job hjob).2⟩

/-- One more pass. -/
theorem Marked.visit (hkey : splitKey? key = some (a.ns, a.name)) (h : Marked key a visits c)
    (now : Timestamp) : Marked key a (visits ++ [⟨now, c⟩]) ((sync now key).run c).2 := by
  intro job' hjob'
  rw [leftUnstamped_append]
  obtain ⟨stored, hstored, hsame, hstatus⟩ :=
    exists_stored_of_sync now hkey (fun stored hstored => (h stored hstored).1) hjob'
  obtain ⟨haddress, htruthful, hunstamped⟩ := h stored hstored
  refine ⟨hsame.address.trans haddress, ?_⟩
  obtain ⟨⟨e, herror⟩, hstatus⟩ | ⟨hended, hstatus⟩ := hstatus
  · -- A pass that fails has written nothing, and counts for nothing.
    have hnot : ¬ ∃ outcome, ((sync now key).run c).1 = .ok outcome := by
      rintro ⟨outcome, houtcome⟩
      exact absurd (herror.symm.trans houtcome) (by simp)
    have hdown : ¬ Visit.TurnsDown key a ⟨now, c⟩ := fun hdown => hnot hdown.1
    have hup : ¬ Visit.GivesUp key a ⟨now, c⟩ := fun hup => hnot hup.1
    rw [hstatus]
    exact ⟨htruthful, by rw [hunstamped, or_iff_right hdown, and_iff_left hup]⟩
  · have hdown : Visit.TurnsDown key a ⟨now, c⟩ ↔ stored.TurnedDown := by
      unfold Visit.TurnsDown
      simp only [hended, hstored, true_and, Option.some.injEq, exists_eq_left']
    have hup : Visit.GivesUp key a ⟨now, c⟩ ↔ stored.Relinquished now c := by
      unfold Visit.GivesUp
      simp only [hended, hstored, true_and, Option.some.injEq, exists_eq_left']
    rw [hstatus, hdown, hup, ← hunstamped]
    exact Job.unstamped_outlook now c htruthful

/-- **When a job has the time of its verdict.** Along every course of passes over a job that was submitted without a
status, whatever others do in between except to write its status, the time is there only with a verdict; and it is
there with every verdict exactly as long as each pass that turned the job down when it had none is followed by one
that gave it up. -/
theorem completion_marked_iff {start : Controller MemoryStore} {stored job : Job}
    (hkey : splitKey? key = some (a.ns, a.name)) (hstored : start.store.jobs.get? a = some stored)
    (haddress : stored.address = a) (hfresh : stored.status = none) (hcourse : Course key a start visits c)
    (hjob : c.store.jobs.get? a = some job) :
    (job.currentStatus.completionTime.isSome = true → job.currentStatus.isFinished = true) ∧
      ((job.currentStatus.completionTime.isSome = true ↔ job.currentStatus.isFinished = true) ↔
        ∀ before v after, visits = before ++ v :: after → v.TurnsDown key a → ∃ w ∈ after, w.GivesUp key a) := by
  have hmarked : Marked key a visits c := by
    clear hjob
    induction hcourse with
    | start =>
      intro job hjob
      rw [hstored, Option.some.injEq] at hjob
      subst hjob
      have hnew : stored.currentStatus = {} := by
        unfold Job.currentStatus
        rw [hfresh, Option.getD_none]
      -- Nothing is known of a new job, and no pass has been made.
      rw [hnew]
      refine ⟨haddress, Bool.noConfusion, iff_of_false (fun h => Bool.false_ne_true h.1) ?_⟩
      rintro ⟨before, v, after, hvisits, -⟩
      exact absurd hvisits (by simp)
    | visit now _ ih => exact ih.visit hkey now
    | aside _ hc ih => exact ih.aside hc
  obtain ⟨-, htruthful, hunstamped⟩ := hmarked job hjob
  refine ⟨htruthful, ?_⟩
  have hstamped : job.currentStatus.Stamped ↔
      (job.currentStatus.completionTime.isSome = true ↔ job.currentStatus.isFinished = true) := Bool.eq_iff_iff
  rw [← hstamped, htruthful.stamped_iff, hunstamped]
  unfold LeftUnstamped
  simp only [not_exists, not_and, Classical.not_forall, Classical.not_not, exists_prop]

end Course

/-- A job that was submitted without replica types, to be deleted as soon as it is finished. -/
def emptySubmission : Controller MemoryStore :=
  sampleStart (sampleJob { ttlSecondsAfterFinished := some 0 } [] none)

/-- The job is turned down, gets replica types and a deadline, and is looked at in time and after the deadline. -/
def mendedLate : List Happening :=
  [.move sampleKey (.pass (sampleTime 10)),
    .edited sampleAddress {
      runPolicy := { activeDeadlineSeconds := some 60 }
      replicaSpecs := .ofList [(masterType, sampleType 1 .never)] },
    .move sampleKey (.pass (sampleTime 20)), .move sampleKey (.pass (sampleTime 100))]

/-- The job has the time of its verdict in the end, so the pass that turned it down was made good. -/
theorem completion_marked_iff_mendedLate :
    ∃ job, (runThrough mendedLate emptySubmission).store.jobs.get? sampleAddress = some job ∧
      job.currentStatus.completionTime.isSome = true ∧ job.currentStatus.isFinished = true ∧
      ∀ before v after, passesOver sampleKey mendedLate emptySubmission = before ++ v :: after →
        v.TurnsDown sampleKey sampleAddress → ∃ w ∈ after, w.GivesUp sampleKey sampleAddress := by
  have henrolled : emptySubmission.store.Enrolled := by decide +kernel
  have hstart : (emptySubmission.store.jobs.get? sampleAddress).map (fun job => (job.address, job.status)) =
      some (sampleAddress, none) := by decide +kernel
  have hend : ((runThrough mendedLate emptySubmission).store.jobs.get? sampleAddress).map (fun job =>
      (job.currentStatus.completionTime.isSome, job.currentStatus.isFinished)) = some (true, true) := by
    decide +kernel
  obtain ⟨stored, hstored, hnew⟩ := Option.map_eq_some_iff.1 hstart
  obtain ⟨job, hjob, hverdict⟩ := Option.map_eq_some_iff.1 hend
  obtain ⟨haddress, hfresh⟩ := Prod.mk.inj hnew
  obtain ⟨htime, hfinished⟩ := Prod.mk.inj hverdict
  refine ⟨job, hjob, htime, hfinished, ?_⟩
  have hcourse := course_runThrough splitKey?_sampleKey henrolled mendedLate
  exact (completion_marked_iff splitKey?_sampleKey hstored haddress hfresh hcourse hjob).2.1
    (iff_of_true htime hfinished)

/-- The job is turned down, gets a replica type, and is looked at a day later. -/
def mended : List Happening :=
  [.move sampleKey (.pass (sampleTime 10)),
    .edited sampleAddress {
      runPolicy := { ttlSecondsAfterFinished := some 0 }
      replicaSpecs := .ofList [(masterType, sampleType 1 .never)] },
    .move sampleKey (.pass (sampleTime 86400))]

/-- The job is finished without the time of its verdict, and is still there. -/
theorem completion_missing_after_rejection :
    (emptySubmission.store.jobs.get? sampleAddress).map (fun job => job.status) = some none ∧
      ∀ happenings ∈ [mended.take 1, mended],
        Course sampleKey sampleAddress emptySubmission (passesOver sampleKey happenings emptySubmission)
            (runThrough happenings emptySubmission) ∧
          ((runThrough happenings emptySubmission).store.jobs.get? sampleAddress).map (fun job =>
            (job.currentStatus.isFinished, job.currentStatus.completionTime)) = some (true, none) := by
  have henrolled : emptySubmission.store.Enrolled := by decide +kernel
  have hends : ∀ happenings ∈ [mended.take 1, mended],
      ((runThrough happenings emptySubmission).store.jobs.get? sampleAddress).map (fun job =>
        (job.currentStatus.isFinished, job.currentStatus.completionTime)) = some (true, none) := by decide +kernel
  exact ⟨by decide +kernel, fun happenings hmem =>
    ⟨course_runThrough splitKey?_sampleKey henrolled happenings, hends happenings hmem⟩⟩

end TrainingJobs
