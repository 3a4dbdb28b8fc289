/-
What a pass leaves behind.

Between two passes over a job one thing holds (`Scene.Standing`): the job is at its end, or the records under its
keys cover everything that is on its way. Bringing the job in line ends so, because all of it was announced
before it was asked for. Bringing the job to its end covers nothing. What it takes away was not announced, and
when that is reported the records fall below what they should hold. But then a verdict is stored, or the job is
gone, since with no request refused but creations nothing can keep the verdict from being written.
-/
import TrainingJobs.Proofs.Bookkeeping
import TrainingJobs.Proofs.Conditions

set_option autoImplicit false

namespace TrainingJobs

open Controller

namespace Controller.SameJob

variable {job job' : Job}

/-- A job whose status was written is expected for under the same key. -/
theorem key_eq (h : SameJob job job') : job'.key = job.key := by
  change keyFor job'.ns job'.name = keyFor job.ns job.name
  rw [h.ns, h.name]

/-- And it has the same types. -/
theorem replicaTypes_eq (h : SameJob job job') : job'.replicaTypes = job.replicaTypes := by
  have hspec : job'.withDefaults.spec = job.withDefaults.spec := congrArg JobSpec.withDefaults h.spec
  unfold Job.replicaTypes
  rw [hspec]

end Controller.SameJob

namespace MemoryStore

variable {op : StoreOp} {α : Type} {objects : MemoryStore → Dict Address α}
  {withObjects : MemoryStore → Dict Address α → MemoryStore} {x : Address} {s : MemoryStore}

/-- A deletion that no failure is lined up for finds nothing there if it is not made. -/
theorem isNotFound_of_delete {kind : String} {e : OperatorError} (hfailure : takeFailure? op s.failures = none)
    (h : ((guarded op (delete kind objects withObjects x)).run s).1 = .error e) : e.isNotFound = true := by
  rw [run_guarded, hfailure] at h
  simp only at h
  rw [run_delete] at h
  split at h
  · exact absurd h (by simp)
  · exact Except.error.inj h ▸ rfl

end MemoryStore

namespace Scene

variable {α : Type} {s s' : Scene} {job stored : Job} {now : Timestamp}

/-! ## Between two passes -/

/-- The records under the keys of the job cover everything that is on its way. -/
def Covered (job : Job) (s : Scene) : Prop :=
  ∀ t ∈ job.replicaTypes, ∀ kind, s.Covers (.of job.key t kind) fun _ => 0

/-- Everything is in order, and if the job is still stored, then with a verdict or with all that is on its way
covered. -/
structure Standing (job : Job) (s : Scene) : Prop where
  inOrder : s.InOrder job.address job.replicaTypes
  record : ∀ stored, s.controller.store.jobs.get? job.address = some stored →
    SameJob job stored ∧ (stored.currentStatus.isFinished = true ∨ s.Covered job)

/-- What upholds the records of a job leaves them covered. -/
theorem Covered.of_upholds (h : s.Covered job) (hs' : s.Upholds job.address job.replicaTypes s') :
    s'.Covered job := fun t ht kind => hs'.covers _ _ (h t ht kind)

/-- Standing lasts between the parts of a pass. -/
theorem lasting_standing : Lasting job.address job.replicaTypes (Standing job) := by
  refine ⟨fun s hs => hs.inOrder, fun s s' hs hs' => ⟨hs'.inOrder, fun stored hstored => ?_⟩⟩
  rw [hs'.jobs] at hstored
  exact (hs.record stored hstored).imp_right fun h => h.imp_right fun hcovered =>
    hcovered.of_upholds hs'.toUpholds

/-- It does not matter with which status the job is known. -/
theorem Standing.of_sameJob (h : s.Standing stored) (hsame : SameJob job stored) : s.Standing job := by
  obtain ⟨hinOrder, hrecord⟩ := h
  unfold Covered at hrecord
  rw [hsame.address, hsame.replicaTypes_eq, hsame.key_eq] at hrecord
  rw [hsame.address, hsame.replicaTypes_eq] at hinOrder
  exact ⟨hinOrder, fun stored' hstored' => (hrecord stored' hstored').imp_left hsame.trans⟩

/-- Level books are covered. -/
theorem Level.covered (h : s.Level now stored) : s.Covered stored := by
  intro t ht kind
  have hcovers := h.covers t ht kind
  simp only [ite_self] at hcovers
  exact hcovers

/-! ## While the job is brought to its end -/

/-- Everything is in order, and the job is stored as it was found. -/
structure Storing (stored : Job) (s : Scene) : Prop where
  inOrder : s.InOrder stored.address stored.replicaTypes
  record : s.controller.store.jobs.get? stored.address = some stored

/-- That the job is stored and its books are covered lasts, too. -/
theorem lasting_storing : Lasting stored.address stored.replicaTypes (Storing stored) :=
  ⟨fun _ hs => hs.inOrder, fun _ _ hs hs' => ⟨hs'.inOrder, hs'.jobs ▸ hs.record⟩⟩

/-- A job whose record is gone, or has a verdict, is at its end. -/
theorem InOrder.standing (hs : s.InOrder stored.address stored.replicaTypes)
    (h : ∀ job', s.controller.store.jobs.get? stored.address = some job' →
      SameJob stored job' ∧ job'.currentStatus.isFinished = true) : s.Standing stored :=
  ⟨hs, fun job' hjob' => (h job' hjob').imp_right .inl⟩

/-- The job is gone if its time to live has passed, and there as before if it has not. -/
def CleanedUp (stored : Job) : Cleanup → Scene → Prop
  | .deleted => Standing stored
  | .kept | .due _ => Storing stored

/-- Cleaning up never comes too early. -/
theorem Storing.perform (h : s.Storing stored) (e : Errand α)
    (htidy : s.controller.store.Tidy (e.op.run s.controller.store).2)
    (hjobs : (e.op.run s.controller.store).2.jobs = s.controller.store.jobs)
    (hnotice : ∀ notice, e.notice? s.passes s.controller.store (e.op.run s.controller.store).1 = some notice →
      notice.Concerns stored.address stored.replicaTypes)
    (hpurpose : ∀ purpose, e.purpose? = some purpose → purpose = .cleanUp) : (s.perform e).2.Storing stored where
  inOrder := h.inOrder.perform e htidy hnotice fun purpose hsome hne => absurd (hpurpose purpose hsome) hne
  record := hjobs.symm ▸ h.record

end Scene

namespace Composition

open Scene MemoryStore

variable {stored : Job} {now : Timestamp} {P Q : Scene → Prop}

/-! ## Deletions at the end -/

/-- A deletion that was not made because there is nothing is as good as made. -/
theorem leads_unlessGone {failed : OperatorError → Scene → Prop} (hQ : Stable Drifts Q) {e : OperatorError}
    {step : ControllerM MemoryStore Unit} (m : Composition step) :
    Leads Drifts (fun s => Q s ∧ e.isNotFound = true) (.choose (e.isNotFound = true) (pure ()) m) (fun _ => Q)
      failed :=
  .of_and fun hgone => .choose
    (fun _ => leads_pure hQ ()) fun hnot => absurd hgone hnot

section End

variable (hslash : Slashless stored.name)
include hslash

theorem stable_storing : Stable Drifts (Storing stored) := lasting_storing.stable hslash

theorem stable_standing : Stable Drifts (Standing stored) := lasting_standing.stable hslash

/-- A deletion that leaves everything in order is made, or there was nothing to delete. -/
theorem leads_removal {e : Errand Unit}
    (hperform : ∀ s : Scene, s.Storing stored → (s.perform e).2.Storing stored)
    (hgone : ∀ s : Scene, s.Storing stored → ∀ err, (e.op.run s.controller.store).1 = .error err →
      err.isNotFound = true) :
    Leads Drifts (Storing stored) (.errand e) (fun _ => Storing stored) fun err s =>
      s.Storing stored ∧ err.isNotFound = true :=
  leads_errand (stable_storing hslash) (fun s hs _ _ => hperform s hs) fun s hs err herror =>
    ⟨hperform s hs, hgone s hs err herror⟩

section CleanUp

variable {t : String} {index : Nat} (htype : IsReplicaType t)
include htype

/-- Cleaning up a pod lowers the books by what is seen of it, and by no more. -/
theorem leads_cleanUpPod {key : ExpectationKey} {name : String} (hname : name = slotName stored.name t index) :
    Leads Drifts (Storing stored) (deletePod .cleanUp stored.withDefaults key name) (fun _ => Storing stored)
      fun _ _ => False := by
  have herrand : Leads Drifts (Storing stored) (.errand (.deletePod .cleanUp ⟨stored.ns, name⟩))
      (fun _ => Storing stored) fun e s => s.Storing stored ∧ e.isNotFound = true := by
    refine leads_removal hslash (fun s hs => ?_) fun s hs e herror =>
      isNotFound_of_delete (hs.inOrder.takeFailure?_eq_none (by decide)) herror
    refine hs.perform _ (.of_effect (effect_deletePod _ _) (tidy_withoutPod _ _))
      ((effect_deletePod _ _).jobs_eq rfl) (fun notice hnotice => ?_) fun purpose hpurpose =>
        (Option.some.inj hpurpose).symm
    -- What stands at the address of the slot was made for it.
    obtain ⟨pod, hpod, hpurpose, hsighting⟩ := Errand.of_deletePod hnotice
    rw [hname] at hpod
    refine ⟨t, htype, ?_, fun hne => absurd hpurpose hne⟩
    rw [hsighting]
    exact ⟨index, (hs.inOrder.pods _ _ hpod).madeFor hslash htype⟩
  refine herrand.bind_attempt (fun _ => leads_tell (stable_storing hslash) _) fun e => .of_and fun hgone => ?_
  exact .choose
    (fun _ => leads_expecting (stable_storing hslash) fun s hs => ⟨hs.inOrder.expecting _, hs.record⟩)
    fun hnot => absurd hgone hnot

/-- Deleting a service is not expected at all. -/
theorem leads_deleteService {name : String} (hname : name = slotName stored.name t index) :
    Leads Drifts (Storing stored) (deleteService stored.withDefaults name) (fun _ => Storing stored)
      fun _ _ => False := by
  have herrand : Leads Drifts (Storing stored) (.errand (.deleteService ⟨stored.ns, name⟩))
      (fun _ => Storing stored) fun e s => s.Storing stored ∧ e.isNotFound = true := by
    -- The notice it gives rise to is of a service made for a slot of the job, under its own name.
    refine leads_removal hslash (fun s hs => ?_) fun s hs e herror =>
      isNotFound_of_delete (hs.inOrder.takeFailure?_eq_none (by decide)) herror
    refine hs.perform _ (.of_effect (effect_deleteService _ _) (tidy_withoutService _ _))
      ((effect_deleteService _ _).jobs_eq rfl) (fun notice hnotice => ?_) fun purpose hpurpose =>
        (Option.some.inj hpurpose).symm
    obtain ⟨service, hservice, hpurpose, hsighting⟩ := Errand.of_deleteService hnotice
    rw [hname] at hservice
    refine ⟨t, htype, ?_, fun hne => absurd hpurpose hne⟩
    rw [hsighting]
    exact ⟨index, (hs.inOrder.services _ _ hservice).madeFor hslash htype⟩
  exact herrand.bind_attempt (fun _ => leads_tell (stable_storing hslash) _) fun e =>
    leads_unlessGone (stable_storing hslash) _

end CleanUp

/-- Cleaning up pods of the job, each with its service, is never refused. -/
theorem leads_cleanUpPods {pods : List Pod} (hpods : stored.Made pods) :
    Leads Drifts (Storing stored) (cleanUpPods stored.withDefaults pods) (fun _ => Storing stored)
      fun _ _ => False := by
  induction pods with
  | nil => exact leads_pure (stable_storing hslash) ()
  | cons pod rest ih =>
    obtain ⟨⟨t, index, htype, hmade⟩, hrest⟩ := List.forall_mem_cons.1 hpods
    exact (leads_cleanUpPod hslash htype hmade.name).bind fun _ =>
      (leads_deleteService hslash htype hmade.name).bind fun _ => ih hrest

/-- Nor is deleting the pod group. -/
theorem leads_deletePodGroup :
    Leads Drifts (Storing stored) (deletePodGroup stored.withDefaults) (fun _ => Storing stored)
      fun _ _ => False := by
  have hread : Leads Drifts (Storing stored) (getPodGroup ⟨stored.ns, podGroupName stored.name⟩)
      (fun _ => Storing stored) fun _ _ => False :=
    (leads_read (f := fun s => s.podGroups.get? _) lasting_storing hslash fun _ _ => rfl).mono (fun _ => id)
      (fun _ _ => And.left) fun _ _ => id
  refine hread.bind fun group =>
    .choose (fun _ => (leads_tell (stable_storing hslash) _).bind fun _ => ?_) fun _ => ?_
  · refine (leads_removal hslash (fun s hs => ?_) fun s hs e herror => ?_).bind_attempt
      (fun _ => leads_tell (stable_storing hslash) _) fun e => leads_unlessGone (stable_storing hslash) _
    · exact lasting_storing.follows s _ hs ⟨hs.inOrder.upholds_aside _ _, (effect_deletePodGroup _ _).jobs_eq rfl⟩
    · exact isNotFound_of_delete (hs.inOrder.takeFailure?_eq_none (by decide)) herror
  · exact leads_pure (stable_storing hslash) ()

/-! ## The record -/

/-- Writing the status of a job that is there leaves it there with that status. -/
theorem leads_updateJobStatus (hP : Lasting stored.address stored.replicaTypes P)
    (hrecord : ∀ s, P s → s.controller.store.jobs.get? stored.address = some stored) {status : JobStatus}
    (hQ : ∀ s s' job', P s → s.Upholds stored.address stored.replicaTypes s' →
      s'.controller.store.jobs.get? stored.address = some job' → SameJob stored job' →
      job'.currentStatus = status → Q s') :
    Leads Drifts P (updateJobStatus stored.withDefaults status) (fun _ => Q) fun _ _ => False := by
  -- No failure is due for this call and the job is there, so it cannot be refused.
  have hrun : ∀ s, P s → (ObjectStore.updateJobStatus stored.withDefaults status :
      StoreM MemoryStore Unit).run s.controller.store =
        (.ok (), recorded stored.address status s.controller.store) := by
    intro s hs
    have hfound : s.controller.store.jobs.get? stored.withDefaults.address = some stored := hrecord s hs
    rw [run_updateJobStatus, (hP.inOrder s hs).takeFailure?_eq_none (by decide)]
    simp only [hfound]
    rfl
  refine leads_errand (hP.stable hslash) (fun s hs u _ => ?_) fun s hs e herror => ?_
  · have hwritten : ((ObjectStore.updateJobStatus stored.withDefaults status : StoreM MemoryStore Unit).run
        s.controller.store).2.jobs.get? stored.address = some (s.controller.store.withRecord stored status) := by
      rw [hrun s hs, recorded, hrecord s hs]
      exact Dict.get?_insert_self _ _ _
    exact hQ s _ _ hs ((hP.inOrder s hs).upholds_aside _ _) hwritten (.of_stamped stored _ _ status) rfl
  · change (ExceptT.run (ObjectStore.updateJobStatus stored.withDefaults status) _).1 = _ at herror
    rw [hrun s hs] at herror
    exact absurd herror (by simp)

/-- A status that is persisted is the one of the record, whether it had to be written or not. -/
theorem leads_persist (hP : Lasting stored.address stored.replicaTypes P)
    (hrecord : ∀ s, P s → s.controller.store.jobs.get? stored.address = some stored) {status : JobStatus}
    (hQ : ∀ s s' job', P s → s.Upholds stored.address stored.replicaTypes s' →
      s'.controller.store.jobs.get? stored.address = some job' → SameJob stored job' →
      job'.currentStatus.isFinished = status.isFinished → Q s') :
    Leads Drifts P (persist now stored.withDefaults status) (fun _ => Q) fun _ _ => False := by
  refine .choose (fun _ => leads_updateJobStatus hslash hP hrecord fun s s' job' hs hs' hjob' hsame hstatus => ?_)
    fun hknown => ?_
  · exact hQ s s' job' hs hs' hjob' hsame (hstatus ▸ rfl)
  · refine (leads_pure (hP.stable hslash) ()).mono (fun _ => id) (fun _ s hs => ?_) fun _ _ => id
    refine hQ s s stored hs (Follows.refl (hP.inOrder s hs)).toUpholds (hrecord s hs) (.refl stored) ?_
    rw [Decidable.not_not.1 hknown]
    rfl

/-- A job that is deleted is gone. -/
theorem leads_deleteJob :
    Leads Drifts (Storing stored) (deleteJob stored.withDefaults) (fun _ => Standing stored) fun _ _ => False := by
  -- As for the status: nothing is due to fail, and the job is there.
  have hrun : ∀ s : Scene, s.Storing stored →
      (ObjectStore.deleteJob stored.address : StoreM MemoryStore Unit).run s.controller.store =
        (.ok (), withoutJob stored.address s.controller.store) := by
    intro s hs
    have hthere : s.controller.store.jobs.contains stored.address = true := by
      rw [Dict.contains, hs.record]
      rfl
    rw [run_deleteJob, hs.inOrder.takeFailure?_eq_none (by decide)]
    exact if_pos hthere
  have herrand : Leads Drifts (Storing stored)
      (.errand (.other (ObjectStore.deleteJob stored.address) fun s =>
        (effect_deleteJob _ s).sameObjects rfl rfl rfl))
      (fun _ => Standing stored) fun _ _ => False := by
    refine leads_errand (stable_storing hslash) (fun s hs u _ => ?_) fun s hs e herror => ?_
    · refine (hs.inOrder.upholds_aside _ _).inOrder.standing fun job' hjob' => ?_
      change ((ObjectStore.deleteJob stored.address : StoreM MemoryStore Unit).run _).2.jobs.get? _ = _ at hjob'
      rw [hrun s hs] at hjob'
      change (s.controller.store.jobs.erase stored.address).get? stored.address = some job' at hjob'
      rw [Dict.get?_erase, if_pos Std.ReflCmp.compare_self] at hjob'
      exact absurd hjob' (by simp)
    · change ((ObjectStore.deleteJob stored.address : StoreM MemoryStore Unit).run _).1 = _ at herror
      rw [hrun s hs] at herror
      exact absurd herror (by simp)
  exact herrand.bind_attempt (fun _ => leads_tell (stable_standing hslash) _) fun _ _ => False.elim

/-! ## The end of a job -/

/-- The job is deleted, if its time is over, and nothing of it is expected then. -/
theorem leads_expire (left : Option Int) :
    Leads Drifts (Storing stored) (expire stored.withDefaults left) (CleanedUp stored) fun _ _ => False := by
  cases left with
  | none => exact leads_own (stable_storing hslash) fun _ hs => hs
  | some remaining =>
    refine .choose (fun _ => leads_own (stable_storing hslash) fun _ hs => hs) fun _ => ?_
    exact (leads_deleteJob hslash).bind fun _ => leads_own (stable_standing hslash) fun _ hs => hs

/-- **Bringing a job to its end is never refused**, and leaves the job gone or with a verdict. -/
theorem leads_terminate {pods : List Pod} (hpods : stored.Made pods) {status : JobStatus}
    {failure : Option String} (hfinished : (giveUp now failure status).settled.isFinished = true) :
    Leads Drifts (Storing stored) (terminate now stored.withDefaults pods status failure)
      (fun _ => Standing stored) fun _ _ => False := by
  have hpersist : Leads Drifts (Storing stored)
      (persist now stored.withDefaults (giveUp now failure status).settled) (fun _ => Standing stored) fun _ _ => False :=
    leads_persist hslash lasting_storing (fun _ hs => hs.record) fun s s' job' _ hs' hjob' hsame hstatus =>
      hs'.inOrder.standing fun job hjob => by
        rw [hjob', Option.some.injEq] at hjob
        exact hjob ▸ ⟨hsame, hstatus.trans hfinished⟩
  -- Deleted, or recorded as finished: the job no longer waits for anything either way.
  have hconclude : Leads Drifts (Storing stored) (conclude now stored.withDefaults status failure)
      (fun _ => Standing stored) fun _ _ => False := by
    refine (leads_tellAll (stable_storing hslash) _).bind fun _ => (leads_expire hslash _).bind fun cleanup => ?_
    cases cleanup with
    | deleted => exact leads_pure (stable_standing hslash) _
    | due remaining => exact hpersist.bind fun _ => leads_pure (stable_standing hslash) _
    | kept => exact hpersist.bind fun _ => leads_pure (stable_standing hslash) _
  refine (leads_cleanUpPods hslash fun pod hpod => hpods pod (List.mem_filter.1 hpod).1).bind fun _ =>
    (leads_look (stable_storing hslash)).bind fun c =>
      .choose (fun _ => (leads_deletePodGroup hslash).bind fun _ => hconclude) fun _ => hconclude

/-! ## Bringing the job in line -/

omit hslash in
/-- To judge a job touches nothing but its status. -/
theorem leads_judge {job : Job} (hP : Stable Drifts P) (status : JobStatus) :
    Leads Drifts P (judge now job status) (fun _ => P) fun _ => P := by
  refine leads_own hP fun s hs => ?_
  have htold := hP s _ hs (.single (.told s (job.judge now status).events))
  unfold Controller.judge
  rw [yields_bind, yields_tellAll]
  split
  · exact htold
  · exact htold

/-- A pass that brings the job in line leaves everything on its way covered, however it ends. -/
theorem leads_advance (hvalid : stored.withDefaults.spec.fault? = none) {pods : List Pod}
    (hpods : stored.Made pods) (services : List Service) (status : JobStatus) :
    Leads Drifts (Level now stored) (advance now stored.withDefaults pods services status)
      (fun _ => Standing stored) fun _ => Standing stored := by
  have hlevel : Stable Drifts (Level now stored) := stable_advancing hslash
  have hstands : ∀ s : Scene, s.Level now stored → s.Standing stored := by
    refine fun s hs => ⟨hs.inOrder, fun job' hjob' => ?_⟩
    rw [hs.record, Option.some.injEq] at hjob'
    exact hjob' ▸ ⟨.refl stored, .inr hs.covered⟩
  have htypes : ∀ e ∈ stored.withDefaults.spec.replicaSpecs.entries,
      e.1 ∈ stored.replicaTypes ∧ IsReplicaType e.1 :=
    fun e he => ⟨List.mem_map.2 ⟨e, he, rfl⟩, Job.isReplicaType_of_acceptable hvalid he⟩
  have hreplicas : Leads Drifts (Level now stored) (reconcileReplicas now stored.withDefaults pods services
      stored.withDefaults.spec.replicaSpecs.entries status) (fun _ => Level now stored) fun _ => Standing stored :=
    (leads_reconcileReplicas hslash hpods services _ status htypes).mono (fun _ => id) (fun _ _ => id)
      fun _ => hstands
  have hpersist : ∀ judged, Leads Drifts (Level now stored) (persist now stored.withDefaults judged)
      (fun _ => Standing stored) fun _ => Standing stored := by
    intro judged
    refine (leads_persist (P := Level now stored) hslash lasting_advancing (fun _ hs => hs.record)
      fun s s' job' hs hs' hjob' hsame _ => ⟨hs'.inOrder, fun job hjob => ?_⟩).mono (fun _ => id) (fun _ _ => id)
      fun _ _ => False.elim
    rw [hjob', Option.some.injEq] at hjob
    exact hjob ▸ ⟨hsame, .inr (hs.covered.of_upholds hs')⟩
  refine hreplicas.bind fun counted => ?_
  refine ((leads_judge hlevel _).mono (fun _ => id) (fun _ _ => id) fun _ => hstands).bind fun judged =>
    (hpersist judged).bind fun _ => leads_own (stable_standing hslash) fun s hs => ?_
  -- How the pass ends does not matter any more.
  split
  · exact hs
  · split
    · exact hs
    · split <;> exact hs

end End

end Composition

end TrainingJobs
