/-
The gate opens only when everything has been seen.

A pass creates pods and services, and deletes pods to replace them, only after it has found nothing outstanding
under the keys of the job. That would be worth little if the records did not know of everything that is on its
way. They do: whatever passes and the watch do in between one another, the records cover it (`Scene.Standing`),
so where they hold nothing up nothing is on its way (`Scene.Waiting.level`). From there on the pass itself keeps
the books (`leads_advance`), and so no pass ever asks for something before all that earlier passes asked for has
been reported (`no_plea_is_early`).
-/
import TrainingJobs.Proofs.Standing

set_option autoImplicit false

namespace TrainingJobs

open Controller

namespace Scene

variable {s s' : Scene} {job stored : Job} {now : Timestamp}

/-! ## The gate -/

/-- A pass has read the record of its job and has done nothing else so far. -/
structure Waiting (now : Timestamp) (stored : Job) (s : Scene) : Prop where
  inOrder : s.InOrder stored.address stored.replicaTypes
  record : s.controller.store.jobs.get? stored.address = some stored
  punctual : s.controller.expectations.Punctual now
  covered : stored.currentStatus.isFinished = true ∨ s.Covered stored

/-- Waiting for what was asked for lasts between the parts of a pass. -/
theorem lasting_waiting : Lasting stored.address stored.replicaTypes (Waiting now stored) :=
  ⟨fun _ hs => hs.inOrder, fun _ _ hs hs' => ⟨hs'.inOrder, hs'.jobs ▸ hs.record, hs'.punctual now hs.punctual,
    hs.covered.imp_right fun h => h.of_upholds hs'.toUpholds⟩⟩

/-- While a job waits, what is expected for it is still standing. -/
theorem Waiting.standing (h : s.Waiting now stored) : s.Standing stored := by
  refine ⟨h.inOrder, fun job' hjob' => ?_⟩
  rw [h.record, Option.some.injEq] at hjob'
  exact hjob' ▸ ⟨.refl stored, h.covered⟩

/-- What holds between passes is what a pass finds that reads the record in time. -/
theorem Standing.waiting (h : s.Standing job) (hpunctual : s.controller.expectations.Punctual now)
    (hstored : s.controller.store.jobs.get? job.address = some stored) :
    SameJob job stored ∧ s.Waiting now stored := by
  obtain ⟨hsame, hcovered⟩ := h.record stored hstored
  refine ⟨hsame, ?_, ?_, hpunctual, hcovered.imp_right fun hcovered => ?_⟩
  · rw [hsame.address, hsame.replicaTypes_eq]
    exact h.inOrder
  · rw [hsame.address]
    exact hstored
  · unfold Covered
    rw [hsame.replicaTypes_eq, hsame.key_eq]
    exact hcovered

/-- Where every key holds nothing up, nothing is on its way but what was cleaned up. -/
theorem Covered.clear (hs : s.InOrder stored.address stored.replicaTypes) (h : s.Covered stored)
    (hpunctual : s.controller.expectations.Punctual now)
    (hsatisfied : ∀ t ∈ stored.replicaTypes, ∀ kind,
      s.controller.expectations.satisfied (.of stored.key t kind) now = true) : s.awaits = false := by
  unfold awaits
  rw [List.any_eq_false]
  intro notice hnotice hawaited
  obtain ⟨-, hpurpose⟩ := Bool.and_eq_true_iff.1 hawaited
  obtain ⟨t, htype, hmade, hconcerned⟩ := hs.notices notice hnotice
  have ht := hconcerned (bne_iff_ne.1 hpurpose)
  -- The record under which it is counted owes it, so the key would hold something up.
  have hcovers := h t ht notice.sighting.kind notice.sighting.way
  simp only [Int.add_zero] at hcovers
  have howed := Expectations.owed_le_zero (hsatisfied t ht notice.sighting.kind) hpunctual notice.sighting.way
  have hcounted : 0 < s.underway (.of stored.key t notice.sighting.kind) notice.sighting.way :=
    List.countP_pos_iff.2 ⟨notice, hnotice, (hmade.settles_iff htype _ _).2 ⟨rfl, rfl⟩⟩
  omega

/-- **A job that the gate lets through has nothing on its way**, unless it is at its end. -/
theorem Waiting.level (h : s.Waiting now stored) (hopen : stored.currentStatus.isFinished = false)
    (hfree : s.controller.expectations.firstPending stored.withDefaults.expectationKeys now = none) :
    s.Level now stored := by
  have hcovered := h.covered.resolve_left (Bool.eq_false_iff.1 hopen)
  -- The gate looks at every key of the job, so no key is left pending.
  have hsatisfied : ∀ t ∈ stored.replicaTypes, ∀ kind,
      s.controller.expectations.satisfied (.of stored.key t kind) now = true := by
    intro t ht kind
    refine (Expectations.firstPending_eq_none_iff _ _ _).1 hfree _ (List.mem_flatMap.2 ⟨t, ht, ?_⟩)
    cases kind
    · exact List.mem_cons_self
    · exact List.mem_cons_of_mem _ List.mem_cons_self
  refine ⟨h.inOrder, h.record, hcovered.clear h.inOrder h.punctual hsatisfied, h.punctual, fun t ht kind => ?_⟩
  simp only [ite_self]
  exact hcovered t ht kind

end Scene

namespace Composition

open Scene MemoryStore

variable {job stored : Job} {now : Timestamp} {key : String} {P : Scene → Prop}

/-! ## A pass -/

section Pass

variable (hslash : Slashless stored.name) (hvalid : stored.withDefaults.spec.fault? = none)
include hslash

/-- Seeing to the pod group changes nothing that lasts. -/
theorem leads_ensurePodGroup (hP : Lasting stored.address stored.replicaTypes P) :
    Leads Drifts P (ensurePodGroup stored.withDefaults) (fun _ => P) fun _ => P := by
  have hdone : Leads Drifts P (pure ()) (fun _ => P) fun _ => P := leads_pure (hP.stable hslash) ()
  refine (leads_aside hP hslash fun _ => rfl).bind fun group => .choose (fun _ => ?_) fun _ => hdone
  refine (leads_settle (hP.stable hslash) _).bind fun owner => .of_and fun _ => ?_
  refine (leads_aside hP hslash fun s => (effect_createPodGroup _ _ s).jobs_eq rfl).bind_attempt
    (fun _ => hdone) fun e => .choose (fun _ => hdone) fun _ => leads_throw (hP.stable hslash) e

include hvalid

/-- A look at the pods brings a job to its end or in line, and a job that is not at its end was let through. -/
theorem leads_reconcileJob (hP : Lasting stored.address stored.replicaTypes P)
    (hrecord : ∀ s, P s → s.controller.store.jobs.get? stored.address = some stored)
    (hlevel : stored.currentStatus.isFinished = false → ∀ s, P s → s.Level now stored) :
    Leads Drifts P (reconcileJob now stored.withDefaults) (fun _ => Standing stored) fun _ => Standing stored := by
  have hpods : Leads Drifts P (listPods stored.ns (Labels.ofJob Job.group stored.name))
      (fun pods s => P s ∧ stored.Made pods) fun _ => Standing stored :=
    (leads_read (f := fun s => select s.pods stored.ns _) hP hslash fun _ _ => rfl).mono (fun _ => id)
      (fun pods s hs => ⟨hs.1, fun pod hpod => by
        rw [hs.2] at hpod
        obtain ⟨t, index, htype, -, hmade⟩ := (hP.inOrder s hs.1).pods.exists_slot_of_listed hslash hpod
        exact ⟨t, index, htype, hmade⟩⟩) fun _ _ => id
  have hservices : Leads Drifts P (listServices stored.ns (Labels.ofJob Job.group stored.name))
      (fun _ => P) fun _ => Standing stored :=
    (leads_read (f := fun s => select s.services stored.ns _) hP hslash fun _ _ => rfl).mono (fun _ => id)
      (fun _ _ => And.left) fun _ _ => id
  -- The pods listed are the job's own. Then the pass ends the job or goes on with it, from a level book.
  refine hpods.bind fun pods => .of_and fun hmade => hservices.bind fun services =>
    (leads_look (hP.stable hslash)).bind fun c => .choose (fun hend => ?_) fun hgoing => ?_
  · refine (leads_terminate hslash hmade ?_).mono (fun s hs => ⟨hP.inOrder s hs, hrecord s hs⟩) (fun _ _ => id)
      fun _ _ => False.elim
    rw [Job.isFinished_takenIn] at hend
    exact (stored.withDefaults.isFinished_closed now _).trans hend
  · rw [Job.isFinished_takenIn, Bool.not_eq_true, Bool.or_eq_false_iff] at hgoing
    exact (leads_advance hslash hvalid hmade services _).mono (hlevel hgoing.1) (fun _ _ => id) fun _ _ => id

/-- Past the gate a pass goes on with level books, unless the job is finished. -/
theorem leads_proceed {held : Option Duration} (hP : Lasting stored.address stored.replicaTypes P)
    (hrecord : ∀ s, P s → s.controller.store.jobs.get? stored.address = some stored)
    (hlevel : stored.currentStatus.isFinished = false → ∀ s, P s → s.Level now stored) :
    Leads Drifts (fun s => s.Waiting now stored ∧ (held = none → P s)) (proceed now stored.withDefaults held)
      (fun _ => Standing stored) fun _ => Standing stored := by
  cases held with
  | some wait =>
    exact (leads_pure (lasting_waiting.stable hslash) _).mono (fun _ => And.left) (fun _ _ => Waiting.standing)
      fun _ _ => id
  | none =>
    have hreconcile := leads_reconcileJob hslash hvalid hP hrecord hlevel
    refine ((leads_look (hP.stable hslash)).bind fun c => .choose (fun _ => ?_) fun _ => hreconcile).mono
      (fun s hs => hs.2 rfl) (fun _ _ => id) fun _ _ => id
    -- Whether the pod group could be made does not matter.
    exact (leads_ensurePodGroup hslash hP).bind_attempt (fun _ => hreconcile) fun _ => hreconcile

/-- A pass that attends to a job, from waiting for nothing, leaves what it expects standing. -/
theorem leads_attend : Leads Drifts (Waiting now stored) (attend now stored.withDefaults)
    (fun _ => Standing stored) fun _ => Standing stored := by
  have hstable : Stable Drifts (Waiting now stored) := lasting_waiting.stable hslash
  refine .choose (fun _ => ?_) fun _ => ?_
  · exact (leads_pure hstable _).mono (fun _ => id) (fun _ _ => Waiting.standing) fun _ _ => id
  · refine (leads_get hstable).bind fun c => ?_
    by_cases hopen : stored.currentStatus.isFinished = false
    · -- What the gate has shown holds until the pass asks for something itself.
      exact (leads_proceed hslash hvalid lasting_advancing (fun _ hs => hs.record) fun _ _ => id).mono
        (fun s hs => ⟨hs.1, fun hfree => hs.1.level hopen (hs.2 ▸ hfree)⟩) (fun _ _ => id) fun _ _ => id
    · exact (leads_proceed hslash hvalid lasting_waiting (fun _ hs => hs.record) fun h => absurd h hopen).mono
        (fun s hs => ⟨hs.1, fun _ => hs.1⟩) (fun _ _ => id) fun _ _ => id

/-- So does one that gets by the check of the spec. -/
theorem leads_respond {fault : Option SpecFault} (hfault : fault = none) :
    Leads Drifts (Waiting now stored) (respond now stored.withDefaults fault) (fun _ => Standing stored)
      fun _ => Standing stored := by
  subst hfault
  exact leads_attend hslash hvalid

end Pass

/-- **A pass keeps what holds between passes**, whatever happens in between, as long as no record is too old
when it begins. -/
theorem leads_sync (hkey : splitKey? key = some (job.ns, job.name))
    (hvalid : job.withDefaults.spec.fault? = none) :
    Leads Drifts (fun s => s.Standing job ∧ s.controller.expectations.Punctual now) (sync now key)
      (fun _ => Standing job) fun _ => Standing job := by
  have hslash : Slashless job.name := slashless_of_splitKey? hkey
  have hlasting : Lasting job.address job.replicaTypes
      fun s => s.Standing job ∧ s.controller.expectations.Punctual now :=
    ⟨fun s hs => hs.1.inOrder, fun s s' hs hs' => ⟨lasting_standing.follows s s' hs.1 hs', hs'.punctual now hs.2⟩⟩
  have hsettle : Leads Drifts (fun s => s.Standing job ∧ s.controller.expectations.Punctual now)
      (settle (splitKey key))
      (fun place s => (s.Standing job ∧ s.controller.expectations.Punctual now) ∧ place = (job.ns, job.name))
      fun _ => Standing job := by
    refine (leads_settle (hlasting.stable hslash) _).mono (fun _ => id) (fun place s hs => ⟨hs.1, ?_⟩)
      fun _ _ => And.left
    have hplace := hs.2
    unfold splitKey at hplace
    rw [hkey] at hplace
    exact (Except.ok.inj hplace).symm
  refine hsettle.bind fun place => .of_and fun hplace => ?_
  subst hplace
  have hread : Leads Drifts (fun s => s.Standing job ∧ s.controller.expectations.Punctual now)
      (getJob job.address)
      (fun found s => (s.Standing job ∧ s.controller.expectations.Punctual now) ∧
        found = s.controller.store.jobs.get? job.address) fun _ => Standing job :=
    leads_read (f := fun store => store.jobs.get? job.address) hlasting hslash fun s hs => by
      rw [run_getJob, hs.1.inOrder.takeFailure?_eq_none (by decide)]
  refine hread.bind fun found => ?_
  cases found with
  | none =>
    -- The job is gone, and nothing is done for it any more.
    have hgone : Lasting job.address job.replicaTypes fun s =>
        s.InOrder job.address job.replicaTypes ∧ s.controller.store.jobs.get? job.address = none :=
      ⟨fun s hs => hs.1, fun s s' hs hs' => ⟨hs'.inOrder, hs'.jobs ▸ hs.2⟩⟩
    have hforgotten : Leads Drifts _ (expecting fun x => x.deleteJob key) (fun _ => Standing job)
        fun _ => Standing job :=
      leads_expecting (hgone.stable hslash) fun s hs =>
        ⟨hs.1.expecting _, fun stored hstored => absurd (hs.2.symm.trans hstored) (by simp)⟩
    exact (hforgotten.mono (fun s hs => ⟨hs.1.1.inOrder, hs.2.symm⟩) (fun _ _ => id) fun _ _ => id).bind fun _ =>
      leads_pure (stable_standing hslash) _
  | some stored =>
    have hrespond : Leads Drifts (fun s => s.Waiting now stored ∧ SameJob job stored)
        (respond now stored.withDefaults stored.withDefaults.spec.fault?) (fun _ => Standing job)
        fun _ => Standing job := by
      refine .of_and fun hsame => ?_
      have hspec : stored.withDefaults.spec = job.withDefaults.spec := congrArg JobSpec.withDefaults hsame.spec
      have hacceptable : stored.withDefaults.spec.fault? = none := hspec ▸ hvalid
      exact (leads_respond (hsame.name ▸ hslash) hacceptable hacceptable).mono (fun _ => id)
        (fun _ s hs => hs.of_sameJob hsame) fun _ s hs => hs.of_sameJob hsame
    exact hrespond.mono (fun s hs => (hs.1.1.waiting hs.1.2 hs.2.symm).symm) (fun _ _ => id) fun _ _ => id

end Composition

/-! ## All passes -/

namespace Scene

variable {key : String} {job : Job} {start s : Scene}

/-- Where one gets from a scene with passes over one job, none of which begins when a record is too old. While a
pass runs and between passes anything may happen that happens beside the passes. -/
inductive Reached (key : String) (start : Scene) : Scene → Prop where
  | start : Reached key start start
  | meanwhile {s s' : Scene} (h : Reached key start s) (hdrifts : Drifts s s') : Reached key start s'
  | pass {s : Scene} {now : Timestamp} {r : Except OperatorError Outcome × Scene} (h : Reached key start s)
      (hpunctual : s.controller.expectations.Punctual now)
      (hends : (Composition.sync now key).Ends Drifts { s with passes := s.passes + 1 } r) : Reached key start r.2

/-- Nothing has been asked for so far on behalf of the job, and nothing is expected. All pods and services that
are there were made by controllers, and no request is going to fail but creations that time out. -/
structure Opening (job : Job) (s : Scene) : Prop where
  record : s.controller.store.jobs.get? job.address = some job
  pods : Housed s.controller.store.pods
  services : Housed s.controller.store.services
  failures : ∀ f ∈ s.controller.store.failures,
    (f.1 = .createPod ∨ f.1 = .createService ∨ f.1 = .createPodGroup) ∧ f.2.isTimeout = true
  expectations : ∀ t kind, s.controller.expectations.records.get? (.of job.key t kind) = none
  unreported : s.unreported = []
  pleas : s.pleas = []

/-- At the opening of a pass everything stands. -/
theorem Opening.standing (h : s.Opening job) : s.Standing job := by
  have hinOrder : s.InOrder job.address job.replicaTypes := by
    refine ⟨h.pods, h.services, h.failures, ?_, ?_⟩
    · rw [h.unreported]
      exact List.forall_mem_nil _
    · rw [h.pleas]
      exact List.forall_mem_nil _
  refine ⟨hinOrder, fun stored hstored => ?_⟩
  rw [h.record, Option.some.injEq] at hstored
  subst hstored
  refine ⟨.refl job, .inr fun t _ kind direction => ?_⟩
  unfold underway Expectations.owed
  rw [h.unreported, h.expectations]
  exact Int.le_refl 0

/-- What holds between passes holds wherever one gets. -/
theorem Reached.standing (hkey : splitKey? key = some (job.ns, job.name))
    (hvalid : job.withDefaults.spec.fault? = none) (hstart : start.Standing job) (h : Reached key start s) :
    s.Standing job := by
  induction h with
  | start => exact hstart
  | meanwhile _ hdrifts ih => exact Composition.stable_standing (slashless_of_splitKey? hkey) _ _ ih hdrifts
  | @pass s now r _ hpunctual hends ih =>
    -- That another pass begins makes no difference to what holds.
    have hbegun : ({ s with passes := s.passes + 1 } : Scene).Standing job :=
      ⟨⟨ih.inOrder.pods, ih.inOrder.services, ih.inOrder.failures, ih.inOrder.notices, ih.inOrder.pleas⟩,
        ih.record⟩
    have hled := Composition.leads_sync hkey hvalid _ ⟨hbegun, hpunctual⟩ r hends
    rcases r with ⟨e | outcome, s'⟩
    · exact hled
    · exact hled

/-- **No pass asks for a pod or service to be created, or for a pod to be deleted for restart, while something
of that kind that an earlier pass asked for is yet to be reported.** It does not matter how passes and reports
are interleaved, in which order and how late the reports come, which creations time out and whether they happen
all the same, and what else becomes of the pods. -/
theorem no_plea_is_early (hkey : splitKey? key = some (job.ns, job.name))
    (hvalid : job.withDefaults.spec.fault? = none) (hstart : start.Opening job) (h : Reached key start s) :
    ∀ plea ∈ s.pleas, plea.purpose = .creation ∨ plea.purpose = .restart → plea.early = false := by
  intro plea hplea hpurpose
  refine (h.standing hkey hvalid hstart.standing).inOrder.pleas plea hplea ?_
  rcases hpurpose with hpurpose | hpurpose
  · exact hpurpose ▸ Purpose.noConfusion
  · exact hpurpose ▸ Purpose.noConfusion

/-! ## A run -/

/-- After a pass with nobody else there. -/
def passed (now : Timestamp) (key : String) (s : Scene) : Scene :=
  ((Composition.sync now key).alone { s with passes := s.passes + 1 }).2

/-- A whole pass, at an instant at which no record has expired, is one more way to get further. -/
theorem Reached.passed (h : Reached key start s) {now : Timestamp}
    (hpunctual : s.controller.expectations.Punctual now) : Reached key start (s.passed now key) :=
  h.pass hpunctual (Composition.ends_alone .refl _ _)

/-- After all that has happened was reported. -/
def caughtUp (s : Scene) : Scene := { s with
  controller := s.unreported.foldl (fun c notice => notice.sighting.take c) s.controller
  unreported := [] }

/-- The watch may catch up with all that has happened. -/
theorem drifts_caughtUp
    (h : ∀ notice ∈ s.unreported, notice.happened = true ∧ notice.sighting.key?.isSome = true) :
    Drifts s s.caughtUp := by
  obtain ⟨c, passes, unreported, pleas⟩ := s
  induction unreported generalizing c with
  | nil => exact .refl _
  | cons notice rest ih =>
    obtain ⟨⟨hhappened, hkey⟩, hrest⟩ := List.forall_mem_cons.1 h
    exact .step (.reported _ (List.nil_append _).symm hhappened (.refl_of_key hkey)) (ih _ hrest)

/-- After the first creation that is yet to be reported has happened, if it is that of a pod. -/
def arrived (s : Scene) : Scene :=
  match s.unreported with
  | [] => s
  | notice :: after =>
    match notice.sighting with
    | .podAdded pod =>
      if s.controller.store.pods.get? pod.metadata.address = none then
        { s.withStore (MemoryStore.withPod pod.metadata.address.ns pod s.controller.store) with
          unreported := { notice with happened := true } :: after }
      else s
    | _ => s

/-- A pod whose creation was not answered may appear after all. -/
theorem drifts_arrived (s : Scene) : Drifts s s.arrived := by
  unfold arrived
  -- Only a creation reported first and not yet made moves anything.
  split
  · exact .refl s
  · next notice after hunreported =>
    split
    · next pod hsighting =>
      split
      · next hfree => exact .single (.podMade s (hunreported.trans (List.nil_append _).symm) hsighting hfree)
      · exact .refl s
    · exact .refl s

/-- After a pod has come to another status. -/
def turned (x : Address) (status : PodStatus) (s : Scene) : Scene :=
  match s.controller.store.pods.get? x with
  | some pod => s.withStore { s.controller.store with
      pods := s.controller.store.pods.insert x { pod with status := some status } }
  | none => s

/-- A pod may turn to another status at any time. -/
theorem drifts_turned (x : Address) (status : PodStatus) (s : Scene) : Drifts s (s.turned x status) := by
  unfold turned
  split
  · next pod hpod => exact .single (.pod s hpod ⟨rfl, rfl, rfl, rfl, rfl⟩)
  · exact .refl s

/-- The creation of the next pod times out. -/
def delayed (s : Scene) : Scene := s.withStore (s.controller.store.failNext .createPod (.timeout "create"))

end Scene

/-- A job of a master and a worker, as it is stored. -/
def couple : Job :=
  let job := sampleJob {} [(masterType, sampleType 1 .exitCode), (workerType, sampleType 1 .exitCode)] none
  { job with metadata := { job.metadata with uid := some "uid-0", resourceVersion := some "1" } }

namespace Scene

def opened : Scene := { controller := sampleStart couple }

/-- All is asked for, but the creation of the first pod times out. -/
def asked : Scene := opened.delayed.passed (sampleTime 1) sampleKey

/-- The next pass finds nothing reported yet. -/
def held : Scene := asked.passed (sampleTime 2) sampleKey

/-- The pod appears after all, everything is reported, and then the worker is killed. -/
def struck : Scene := held.arrived.caughtUp.turned ⟨"default", slotName "iris" workerType 0⟩ killed

/-- The worker is deleted to be replaced, and the next pass finds that not reported yet. -/
def bereft : Scene := (struck.passed (sampleTime 3) sampleKey).passed (sampleTime 4) sampleKey

/-- When it is reported the worker is made anew. -/
def restored : Scene := bereft.caughtUp.passed (sampleTime 5) sampleKey

/-- There are five passes, and two of them ask for nothing because something is yet to be reported. -/
theorem no_plea_is_early_restored :
    held.awaits = true ∧ bereft.awaits = true ∧
      restored.pleas.map Plea.purpose = [.creation, .creation, .creation, .creation, .restart, .creation] ∧
      ∀ plea ∈ restored.pleas, plea.purpose = .creation ∨ plea.purpose = .restart → plea.early = false := by
  have hkey : splitKey? sampleKey = some (couple.ns, couple.name) := by decide +kernel
  have hvalid : couple.withDefaults.spec.fault? = none := by decide +kernel
  have hrecord : (sampleStart couple).store.jobs.get? couple.address = some couple := by decide +kernel
  have hopening : opened.Opening couple :=
    ⟨hrecord, housed_empty, housed_empty, List.forall_mem_nil _, fun _ _ => rfl, rfl, rfl⟩
  -- No record is too old when a pass begins, and what is reported has happened.
  obtain ⟨hfirst, hsecond, hthird, hfourth, hfifth, hmade, hgone, hruns⟩ :
      opened.delayed.controller.expectations.Punctual (sampleTime 1) ∧
      asked.controller.expectations.Punctual (sampleTime 2) ∧
      struck.controller.expectations.Punctual (sampleTime 3) ∧
      (struck.passed (sampleTime 3) sampleKey).controller.expectations.Punctual (sampleTime 4) ∧
      bereft.caughtUp.controller.expectations.Punctual (sampleTime 5) ∧
      (∀ notice ∈ held.arrived.unreported, notice.happened = true ∧ notice.sighting.key?.isSome = true) ∧
      (∀ notice ∈ bereft.unreported, notice.happened = true ∧ notice.sighting.key?.isSome = true) ∧
      held.awaits = true ∧ bereft.awaits = true ∧
      restored.pleas.map Plea.purpose = [.creation, .creation, .creation, .creation, .restart, .creation] := by
    decide +kernel
  have hdelayed : Reached sampleKey opened opened.delayed :=
    .meanwhile .start (.single (.timeout opened (.inl rfl) rfl))
  have hasked : Reached sampleKey opened asked := hdelayed.passed hfirst
  have hheld : Reached sampleKey opened held := hasked.passed hsecond
  have hanswered : Reached sampleKey opened held.arrived.caughtUp :=
    (hheld.meanwhile (drifts_arrived held)).meanwhile (drifts_caughtUp hmade)
  have hstruck : Reached sampleKey opened struck := hanswered.meanwhile (drifts_turned _ _ _)
  have hreplaced : Reached sampleKey opened (struck.passed (sampleTime 3) sampleKey) := hstruck.passed hthird
  have hbereft : Reached sampleKey opened bereft := hreplaced.passed hfourth
  have hseen : Reached sampleKey opened bereft.caughtUp := hbereft.meanwhile (drifts_caughtUp hgone)
  have hrestored : Reached sampleKey opened restored := hseen.passed hfifth
  exact ⟨hruns.1, hruns.2.1, hruns.2.2, no_plea_is_early hkey hvalid hopening hrestored⟩

end Scene

end TrainingJobs
