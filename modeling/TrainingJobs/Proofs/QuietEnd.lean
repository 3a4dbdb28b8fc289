/-
Whether a pass over a job that has been brought to its end does anything more.

The first such pass writes a status that says all there is to say (`JobStatus.IsClosed`), and leaves no pod to
delete and no pod group. So the next pass, if nothing has changed, looks at what there is and does nothing, with
one exception: it compares the job with its limits once more, and if it is past one now, be it only that time has
gone by, the failure is told anew. `quiet_unless_past_limit` says that this is the only way to be heard of again.
-/
import TrainingJobs.Proofs.Leftovers
import TrainingJobs.Proofs.SteadyState

set_option autoImplicit false

namespace TrainingJobs

open Controller MemoryStore ScriptedStore

/-! ## The last status of a job -/

/-- Bringing a job with that status to its end once more finds nothing to add. -/
structure JobStatus.IsClosed (s : JobStatus) : Prop where
  started : s.startTime.isSome = true
  noted : s.holds .created = true ∨ s.isFailed = true
  settled : s.settled = s

namespace JobStatus

variable {s : JobStatus}

/-- What is counted over is not counted over again. -/
theorem settled_settled (s : JobStatus) : s.settled.settled = s.settled := by
  by_cases hs : s.isSucceeded = true
  · have hafter : s.settled.isSucceeded = true := (isSucceeded_settled s).trans hs
    rw [settled, if_pos hafter, settled, if_pos hs]
    unfold Dict.mapValues
    simp only [List.map_map, mk.injEq, Dict.mk.injEq, true_and, and_true]
    exact List.map_congr_left fun e _ => by simp
  · have hsame : s.settled = s := if_neg hs
    rw [hsame, hsame]

/-- When the status was written does not matter. -/
theorem IsClosed.reconciled (h : s.IsClosed) (time : Option Timestamp) :
    IsClosed { s with lastReconcileTime := time } where
  started := h.started
  noted := h.noted
  settled := by
    have hsettled := h.settled
    unfold JobStatus.settled at hsettled ⊢
    change (if s.isSucceeded = true then _ else _) = _
    split at hsettled
    · next hs =>
      rw [if_pos hs]
      exact congrArg (fun s : JobStatus => { s with lastReconcileTime := time }) hsettled
    · next hs => rw [if_neg hs]

end JobStatus

namespace Job

variable {job : Job} {now : Timestamp}

/-- What a pass brings a job to its end with is its last word, unless the job goes over another limit. -/
theorem isClosed_closed (job : Job) (now : Timestamp) (failure : Option String) :
    (job.closed now failure).IsClosed where
  started := by
    have hstarted : (giveUp now failure (job.takenIn now)).startTime = (job.takenIn now).startTime := by
      cases failure with
      | none => rfl
      | some message => exact JobStatus.startTime_note _ _ _ _ _
    have hsettled : (job.closed now failure).startTime = (giveUp now failure (job.takenIn now)).startTime := by
      unfold closed JobStatus.settled
      split <;> rfl
    rw [hsettled, hstarted, startTime_takenIn]
    rfl
  noted := by
    by_cases hfailed : (job.closed now failure).isFailed = true
    · exact .inr hfailed
    · -- A job that has not failed was noted when it was taken in.
      rw [isFailed_closed, Bool.not_eq_true, Bool.or_eq_false_iff, Option.isSome_eq_false_iff,
        Option.isNone_iff_eq_none] at hfailed
      obtain ⟨hfailed, rfl⟩ := hfailed
      have hsettled : (job.closed now none).holds .created = (job.takenIn now).holds .created := by
        unfold closed JobStatus.settled
        split <;> rfl
      exact .inl (hsettled.trans (holds_created_takenIn hfailed))
  settled := JobStatus.settled_settled _

/-- A closed job was taken in before, so that nothing is added. -/
theorem takenIn_of_isClosed (h : job.currentStatus.IsClosed) (now : Timestamp) :
    job.takenIn now = job.currentStatus := by
  obtain ⟨start, hstart⟩ := Option.isSome_iff_exists.1 h.started
  have hstarted : { job.currentStatus with startTime := some (job.currentStatus.startTime.getD now) } =
      job.currentStatus := by
    rw [hstart, Option.getD_some, ← hstart]
  unfold takenIn
  simp only [hstarted]
  split
  · rfl
  · next hcreated =>
    -- Not noted as created, the job was turned down, and a failed status takes no note.
    exact JobStatus.note_of_failed (h.noted.resolve_left hcreated)

/-- A job that is still there after it was brought to its end has its last status. -/
theorem isClosed_resolve {stored stored₁ : Job} {a : Address} {s : MemoryStore} {failure : Option String}
    (hstored : s.jobs.get? a = some stored)
    (hstill : (resolve a (stored.withDefaults.ended now (stored.withDefaults.closed now failure)) s).jobs.get? a =
      some stored₁) : stored₁.currentStatus.IsClosed := by
  have hclosed := isClosed_closed stored.withDefaults now failure
  have hstatus := (stored_resolve hstored hstill).1
  -- An expired job is deleted, so a job still there had its closed status written.
  by_cases hexpired : stored.withDefaults.Expired now (stored.withDefaults.closed now failure)
  · rw [ended_of_expired hexpired] at hstill
    change (s.jobs.erase a).get? a = some stored₁ at hstill
    rw [Dict.get?_erase, if_pos Std.ReflCmp.compare_self] at hstill
    exact absurd hstill (by simp)
  · rw [hstatus, ended_of_not_expired hexpired]
    unfold written
    split
    · exact hclosed.reconciled _
    · next hknown => exact Decidable.not_not.1 hknown ▸ hclosed

/-- Bringing it to its end once more leaves the status as it is. -/
theorem closed_of_isClosed (h : job.currentStatus.IsClosed) (now : Timestamp) :
    job.closed now none = job.currentStatus := by
  unfold closed
  rw [takenIn_of_isClosed h]
  exact h.settled

end Job

/-! ## A job at its end -/

/-- There is nothing left to clean up or to write down for a job at its end. -/
structure Job.AtRest (job : Job) (now : Timestamp) (c : Controller ScriptedStore) : Prop where
  closed : job.currentStatus.IsClosed
  alive : ¬ job.Expired now job.currentStatus
  discards : job.discards (job.podsIn c.store.memory) = []
  podGroup : c.config.gang = true → c.store.memory.podGroups.get? ⟨job.ns, podGroupName job.name⟩ = none

namespace Job.AtRest

variable {job : Job} {now : Timestamp} {c c₁ : Controller ScriptedStore}
  {done : Outcome → Controller ScriptedStore → Prop} {failed : OperatorError → Controller ScriptedStore → Prop}

/-- There is nothing to clean up on the way to the last part of the end. -/
theorem terminate (h : job.AtRest now c) (hc₁ : Silent c c₁) {status : JobStatus} {failure : Option String}
    (hrefused : c.store.script ≠ [] → ∀ e c', Silent c c' → failed e c')
    (hlast : ∀ c', Silent c c' → Yields (conclude now job status failure) c' done failed) :
    Yields (terminate now job (job.podsIn c.store.memory) status failure) c₁ done failed := by
  have hnone : (job.podsIn c.store.memory).filter (fun pod => pod.isCleanedUp job.spec.runPolicy.cleaning) = [] :=
    List.map_eq_nil_iff.1 h.discards
  rw [terminate_eq, hnone, cleanUpPods, yields_bind, yields_pure, yields_bind, yields_get, hc₁.config]
  -- At rest there is no pod to delete, and under gang scheduling no group either.
  by_cases hgang : c.config.gang = true
  · rw [if_pos hgang, yields_bind]
    unfold deletePodGroup
    rw [yields_bind]
    refine hc₁.look (.getPodGroup ⟨job.ns, podGroupName job.name⟩) rfl (run_getPodGroup _ _) hrefused
      fun c₂ h₂ => ?_
    rw [h.podGroup hgang]
    exact hlast c₂ h₂
  · rw [if_neg hgang]
    exact hlast c₁ hc₁

/-- There is nothing to write down in the last part of the end, if the job is not given up. -/
theorem conclude (h : job.AtRest now c) (hdone : ∀ outcome, done outcome c₁) :
    Yields (conclude now job (job.takenIn now) none) c₁ done failed := by
  have hclosed : (giveUp now none (job.takenIn now)).settled = job.currentStatus := closed_of_isClosed h.closed now
  -- A status that is known already is not written again.
  have hpersist : ∀ outcome : Outcome,
      Yields (do persist now job job.currentStatus; return outcome) c₁ done failed := by
    intro outcome
    rw [yields_bind]
    unfold persist
    rw [if_neg (not_not_intro rfl)]
    exact hdone outcome
  unfold Controller.conclude
  rw [hclosed, yields_bind, yields_tellAll]
  have hsame : ({ c₁ with events := c₁.events ++
      (none : Option String).toList.map (job.normalEvent Reason.jobFailed) } : Controller ScriptedStore) = c₁ := by
    rw [Option.toList_none, List.map_nil, List.append_nil]
  rw [hsame, yields_bind]
  unfold cleanUpJob
  rcases hlive : job.timeToLive? job.currentStatus now with _ | remaining
  · exact hpersist .done
  · have hleft : 0 < remaining := Int.not_le.1 fun hover => h.alive ⟨remaining, hlive, hover⟩
    simp only
    rw [if_pos hleft]
    exact hpersist (.requeue _)

end Job.AtRest

/-! ## What is told -/

/-- A job that is given up is told to have failed, whatever comes of the rest. -/
theorem tells_conclude (now : Timestamp) (job : Job) (status : JobStatus) (message : String)
    (c : Controller ScriptedStore) :
    Yields (conclude now job status (some message)) c
      (fun _ c' => c.events ++ [job.normalEvent Reason.jobFailed message] <+: c'.events)
      fun _ c' => c.events ++ [job.normalEvent Reason.jobFailed message] <+: c'.events := by
  have hframe : Frame fun c c' : Controller ScriptedStore => c.events <+: c'.events := {
    refl := fun c => List.prefix_refl c.events
    trans := List.IsPrefix.trans
    told := fun c events => List.prefix_append c.events events }
  -- From the telling on, it is the end of a job that is not given up.
  have hkeeps : Keeps (fun c c' => c.events <+: c'.events) (conclude now job (giveUp now (some message) status) none) :=
    keeps_conclude hframe (fun c => List.prefix_refl c.events) fun c => List.prefix_refl c.events
  have hrest := hkeeps { c with events := c.events ++ [job.normalEvent Reason.jobFailed message] }
  unfold conclude at hrest ⊢
  rw [yields_bind, yields_tellAll] at hrest ⊢
  rw [Option.toList_none, List.map_nil, List.append_nil] at hrest
  exact hrest

/-! ## The next pass -/

/-- A pass finds the job past a limit. -/
def Job.FailsAgain (stored : Job) (now : Timestamp) (c : Controller ScriptedStore) : Prop :=
  let job := stored.withDefaults
  job.spec.fault? = none ∧ Attends now job c ∧
    (job.exceeded? (job.podsIn c.store.memory) (c.retries.count job.key) (job.takenIn now) now).isSome = true

instance (stored : Job) (now : Timestamp) (c : Controller ScriptedStore) : Decidable (stored.FailsAgain now c) :=
  inferInstanceAs (Decidable (_ ∧ _ ∧ _))

section NextPass

variable {key : String} {a : Address} {stored : Job} {now : Timestamp} {c : Controller ScriptedStore}

/-- A pass over a job at its end is heard of exactly when it finds the job past a limit. -/
theorem silent_sync (hkey : splitKey? key = some (a.ns, a.name)) (hstored : c.store.memory.jobs.get? a = some stored)
    (hfinished : stored.currentStatus.isFinished = true) (hfailures : c.store.memory.failures = [])
    (hfault : stored.withDefaults.spec.fault? ≠ none → stored.currentStatus.isFailed = true)
    (hrest : stored.withDefaults.spec.fault? = none → Attends now stored.withDefaults c →
      stored.withDefaults.AtRest now c) :
    (¬ stored.FailsAgain now c → Silent c ((sync now key).run c).2) ∧
      (c.store.script = [] → stored.FailsAgain now c → ¬ Silent c ((sync now key).run c).2) := by
  constructor
  · intro hwithin
    refine Yields.run (P := Silent c) (yields_sync_of_looks hkey hstored hfinished hfailures (fun _ _ _ => id)
      (fun fault hsome c₁ h₁ => ?_) (fun _ _ _ _ => id) fun hvalid hattends c₁ h₁ => ?_)
    · -- A job that has failed is not turned down once more.
      have hfailed : stored.withDefaults.currentStatus.isFailed = true := hfault (by rw [hsome]; simp)
      unfold reject
      simp only [hfailed, if_true]
      exact h₁
    · have hrest := hrest hvalid hattends
      have hnone : stored.withDefaults.exceeded? (stored.withDefaults.podsIn c.store.memory)
          (c.retries.count stored.withDefaults.key) (stored.withDefaults.takenIn now) now = none := by
        rw [← Option.not_isSome_iff_eq_none]
        exact fun hsome => hwithin ⟨hvalid, hattends, hsome⟩
      simp only [hnone]
      exact hrest.terminate h₁ (fun _ _ _ => id) fun c₂ h₂ => hrest.conclude fun _ => h₂
  · intro hscript hagain
    obtain ⟨hvalid, hattends, hpast⟩ := hagain
    obtain ⟨message, hmessage⟩ := Option.isSome_iff_exists.1 hpast
    refine Yields.run (P := fun c' => ¬ Silent c c') (yields_sync_of_looks hkey hstored hfinished hfailures
      (fun hnot => absurd hscript hnot) (fun fault hsome => ?_) (fun _ haside => absurd hattends haside)
      fun _ _ c₁ h₁ => ?_)
    · rw [hvalid] at hsome
      exact absurd hsome (by simp)
    · simp only [hmessage]
      refine (hrest hvalid hattends).terminate h₁ (fun hnot => absurd hscript hnot) fun c₂ h₂ => ?_
      -- One event more is on record than before the pass.
      have hheard : ∀ c', c₂.events ++ [stored.withDefaults.normalEvent Reason.jobFailed message] <+: c'.events →
          ¬ Silent c c' := by
        intro c' htold hsilent
        have hlength := htold.length_le
        rw [hsilent.events, h₂.events, List.length_append, List.length_singleton] at hlength
        exact Nat.not_succ_le_self _ hlength
      exact (tells_conclude now stored.withDefaults _ message c₂).mono (fun _ c' => hheard c') fun _ c' => hheard c'

/-- Between two passes nothing is done to the store or to the settings. Time goes by, and it does not matter what the
controller expects and remembers, nor which calls are to be refused next. -/
structure Idle (c c' : Controller ScriptedStore) : Prop where
  memory : ∃ clock, c'.store.memory = { c.store.memory with clock := clock }
  config : c'.config = c.config

theorem Idle.refl (c : Controller ScriptedStore) : Idle c c := ⟨⟨c.store.memory.clock, rfl⟩, rfl⟩

/-- What a pass that ends well leaves of a finished job, if anything, is the same job, still finished. If its spec is
not acceptable it has failed. -/
theorem finished_of_pass {stored₁ : Job} {c₁ : Controller ScriptedStore} {outcome : Outcome}
    (hkey : splitKey? key = some (a.ns, a.name)) (hstored : c.store.memory.jobs.get? a = some stored)
    (haddress : stored.address = a) (hfinished : stored.currentStatus.isFinished = true) (hfair : c.store.Fair)
    (hrun : (sync now key).run c = (.ok outcome, c₁)) (hstill : c₁.store.memory.jobs.get? a = some stored₁) :
    SameJob stored stored₁ ∧ stored₁.currentStatus.isFinished = true ∧ c₁.store.memory.failures = [] ∧
      (stored.withDefaults.spec.fault? ≠ none → stored₁.currentStatus.isFailed = true) := by
  rcases hfault : stored.withDefaults.spec.fault? with _ | fault
  · have hpass := (yields_sync_of_fair now hkey hstored haddress hfault hfinished hfair).ok hrun
    -- A held-up pass wrote nothing; any other wrote the ended status.
    by_cases hattends : Attends now stored.withDefaults c
    · rw [if_pos hattends] at hpass
      have hcleared : (stored.withDefaults.cleared c.config.gang (stored.withDefaults.podsIn c.store.memory)
          c.store.memory).jobs.get? a = some stored := hstored
      obtain ⟨hstatus, hsame⟩ := stored_resolve hcleared (hpass.memory ▸ hstill)
      refine ⟨hsame, ?_, ?_, fun h => absurd rfl h⟩
      · rw [hstatus]
        exact Job.isFinished_ended now _ hfinished
      · rw [hpass.memory, failures_resolve]
        exact hfair.failures
    · rw [if_neg hattends] at hpass
      rw [hpass.memory, hstored, Option.some.injEq] at hstill
      subst hstill
      refine ⟨.refl stored, hfinished, ?_, fun h => absurd rfl h⟩
      rw [hpass.memory]
      exact hfair.failures
  · have hpass := (yields_sync_of_fault_of_fair now hkey hstored haddress hfault hfinished hfair).ok hrun
    obtain ⟨hstatus, hsame⟩ := stored_resolve hstored (hpass.memory ▸ hstill)
    have hfailed : stored₁.currentStatus.isFailed = true := by
      rw [hstatus]
      split
      · assumption
      · change (JobStatus.note _ _ _ _ _).isFailed = true
        rw [JobStatus.isFailed_note, beq_self_eq_true, Bool.or_true]
    refine ⟨hsame, ?_, ?_, fun _ => hfailed⟩
    · unfold JobStatus.isFinished
      rw [hfailed, Bool.or_true]
    · rw [hpass.memory, failures_resolve]
      exact hfair.failures

/-- A pass that ends well and attends to a finished job leaves it at rest until its time to live is over. -/
theorem atRest_of_pass {stored₁ : Job} {c₁ c₂ : Controller ScriptedStore} {later : Timestamp} {outcome : Outcome}
    (hkey : splitKey? key = some (a.ns, a.name)) (hstored : c.store.memory.jobs.get? a = some stored)
    (haddress : stored.address = a) (hvalid : stored.withDefaults.spec.fault? = none)
    (hfinished : stored.currentStatus.isFinished = true) (hplace : c.store.memory.PodsInPlace) (hfair : c.store.Fair)
    (hattends : Attends now stored.withDefaults c) (hrun : (sync now key).run c = (.ok outcome, c₁))
    (hstill : c₁.store.memory.jobs.get? a = some stored₁) (hbetween : Idle c₁ c₂)
    (halive : ¬ stored₁.withDefaults.Expired later stored₁.currentStatus) :
    stored₁.withDefaults.AtRest later c₂ := by
  have hpass := (yields_sync_of_fair now hkey hstored haddress hvalid hfinished hfair).ok hrun
  rw [if_pos hattends] at hpass
  rw [hpass.memory] at hstill
  have hcleared : (stored.withDefaults.cleared c.config.gang (stored.withDefaults.podsIn c.store.memory)
      c.store.memory).jobs.get? a = some stored := hstored
  have hsame : SameJob stored stored₁ := (stored_resolve hcleared hstill).2
  obtain ⟨clock, hmemory⟩ := hbetween.memory
  rw [hpass.memory] at hmemory
  have hclosed : stored₁.currentStatus.IsClosed := Job.isClosed_resolve hcleared hstill
  refine ⟨hclosed, halive, ?_, fun hgang => ?_⟩
  · -- What the pass was to delete it deleted, and nothing has come since: the same list is empty now.
    have hpods : c₂.store.memory.pods = c.store.memory.pods.without
        (stored.withDefaults.discards (stored.withDefaults.podsIn c.store.memory)) := by
      rw [hmemory]
      exact pods_resolve _ _ _
    rw [Job.discards_of_sameJob hsame, List.eq_nil_iff_forall_not_mem]
    intro x hx
    obtain ⟨hdue, hleft⟩ := (Job.mem_discards_of_without hplace hpods).1 hx
    exact hleft hdue
  · have hgroups : c₂.store.memory.podGroups = if c.config.gang then
        c.store.memory.podGroups.without [⟨stored.ns, podGroupName stored.name⟩] else c.store.memory.podGroups := by
      rw [hmemory]
      exact podGroups_resolve _ _ _
    rw [hbetween.config, hpass.config] at hgang
    rw [hgroups, if_pos hgang, Dict.get?_without, if_pos]
    change (⟨stored₁.ns, podGroupName stored₁.name⟩ : Address) ∈ _
    rw [hsame.ns, hsame.name]
    exact List.mem_cons_self

end NextPass

/-- **A job at its end is heard of again only when it is past a limit.** The first pass over a finished job ends well,
with nothing outstanding for the job, and leaves it stored; nothing is done to the store until another pass is made,
before the job's time to live is over. If that pass finds the job within its limits, or does not attend to it, it
does nothing but look, whatever is refused. If the pass finds the job past a limit, it tells that the job fails,
unless it is kept from looking. -/
theorem quiet_unless_past_limit {key : String} {a : Address} {stored stored₁ : Job} {first later : Timestamp}
    {c c₁ c₂ : Controller ScriptedStore} {outcome : Outcome} (hkey : splitKey? key = some (a.ns, a.name))
    (hstored : c.store.memory.jobs.get? a = some stored) (haddress : stored.address = a)
    (hfinished : stored.currentStatus.isFinished = true) (hplace : c.store.memory.PodsInPlace)
    (hfair : c.store.Fair) (hfree : expectationsSatisfied first stored.withDefaults c = true)
    (hfirst : (sync first key).run c = (.ok outcome, c₁)) (hstill : c₁.store.memory.jobs.get? a = some stored₁)
    (hbetween : Idle c₁ c₂) (halive : ¬ stored₁.withDefaults.Expired later stored₁.currentStatus) :
    (¬ stored₁.FailsAgain later c₂ → Silent c₂ ((sync later key).run c₂).2) ∧
      (c₂.store.script = [] → stored₁.FailsAgain later c₂ → ¬ Silent c₂ ((sync later key).run c₂).2) := by
  obtain ⟨clock, hmemory⟩ := hbetween.memory
  have hstored₁ : c₂.store.memory.jobs.get? a = some stored₁ := by
    rw [hmemory]
    exact hstill
  obtain ⟨hsame, hfinished₁, hfailures, hfailed⟩ :=
    finished_of_pass hkey hstored haddress hfinished hfair hfirst hstill
  have hspec : stored₁.withDefaults.spec = stored.withDefaults.spec := congrArg JobSpec.withDefaults hsame.spec
  refine silent_sync hkey hstored₁ hfinished₁ (by rw [hmemory]; exact hfailures) (hspec ▸ hfailed)
    fun hvalid hattends => ?_
  -- A job that is not going now was not going at the first pass either, so that pass attended to it.
  have hstaying : stored.withDefaults.isLeaving = false := hsame.leaving.symm.trans hattends.1
  exact atRest_of_pass hkey hstored haddress (hspec ▸ hvalid) hfinished hplace hfair ⟨hstaying, hfree⟩ hfirst hstill
    hbetween halive

/-- A job that failed within the minute for which it may be active, on a store that has its pods and pod group. It is
to be kept for an hour. -/
def failedInTime : Controller ScriptedStore :=
  let job := sampleJob
    { activeDeadlineSeconds := some 60, ttlSecondsAfterFinished := some 3600, cleanPodPolicy := some .running }
    [(masterType, sampleType 1 .never), (workerType, sampleType 1 .never)] (some {
      conditions := [.holding .created Reason.jobCreated "XGBoostJob iris is created." (sampleTime 0),
        .holding .failed Reason.jobFailed "XGBoostJob iris is failed because 1 Master replica(s) failed."
          (sampleTime 30)]
      startTime := some (sampleTime 0)
      completionTime := some (sampleTime 30) })
  let store := (sampleStartWith job
    [samplePod masterType 0 "Failed" (some 1), samplePod workerType 0 "Running" none]).store
  let group : PodGroup := { metadata := { name := some "iris", ns := some "default" }, minMember := 2 }
  .new { gang := true } { memory := { store with podGroups := .ofList [(sampleAddress, group)] } }

/-- The same after a pass, which has deleted the worker and the pod group. -/
def broughtToItsEnd : Controller ScriptedStore := ((sync (sampleTime 31) sampleKey).run failedInTime).2

/-- Another pass within the minute does nothing. -/
theorem quiet_within_deadline :
    Silent broughtToItsEnd ((sync (sampleTime 40) sampleKey).run broughtToItsEnd).2 := by
  have hstart : (failedInTime.store.memory.jobs.get? sampleAddress).map (fun job =>
      (job.address, job.currentStatus.isFinished,
        expectationsSatisfied (sampleTime 31) job.withDefaults failedInTime)) =
      some (sampleAddress, true, true) := by decide +kernel
  obtain ⟨stored, hstored, hfound⟩ := Option.map_eq_some_iff.1 hstart
  simp only [Prod.mk.injEq] at hfound
  obtain ⟨haddress, hfinished, hfree⟩ := hfound
  have hnext : (broughtToItsEnd.store.memory.jobs.get? sampleAddress).map (fun job =>
      (job.withDefaults.timeToLive? job.currentStatus (sampleTime 40),
        decide (job.FailsAgain (sampleTime 40) broughtToItsEnd))) = some (some 3590000000000, false) := by
    decide +kernel
  obtain ⟨stored₁, hstill, hafter⟩ := Option.map_eq_some_iff.1 hnext
  obtain ⟨hlive, hwithin⟩ := Prod.mk.inj hafter
  have halive : ¬ stored₁.withDefaults.Expired (sampleTime 40) stored₁.currentStatus := by
    rintro ⟨remaining, hremaining, hover⟩
    rw [hlive, Option.some.injEq] at hremaining
    omega
  have hplace : failedInTime.store.memory.PodsInPlace := by decide +kernel
  have hfair : failedInTime.store.Fair := by decide +kernel
  obtain ⟨outcome, hfirst⟩ := exists_run_ok
    (show ((sync (sampleTime 31) sampleKey).run failedInTime).1.isOk = true by decide +kernel)
  rw [← broughtToItsEnd] at hfirst
  exact (quiet_unless_past_limit splitKey?_sampleKey hstored haddress hfinished hplace hfair hfree hfirst hstill
    (.refl _) halive).1 (of_decide_eq_false hwithin)

/-- A pass after the minute tells that the job has failed, as it had before and in time. -/
theorem heard_of_past_deadline :
    ((sync (sampleTime 31) sampleKey).run failedInTime).1.isOk = true ∧
      (broughtToItsEnd.store.memory.jobs.get? sampleAddress).map (fun job => job.currentStatus.isFailed) = some true ∧
      ((sync (sampleTime 61) sampleKey).run broughtToItsEnd).1.isOk = true ∧
      ((sync (sampleTime 61) sampleKey).run broughtToItsEnd).2.store.memory.jobs.keys = [sampleAddress] ∧
      (((sync (sampleTime 61) sampleKey).run broughtToItsEnd).2.events.drop broughtToItsEnd.events.length).map
        (·.reason) = [Reason.jobFailed] := by
  refine ⟨?_, ?_, ?_, ?_, ?_⟩ <;> decide +kernel

end TrainingJobs
