/-
The pods of a job that are placed together.

Where pods are placed together, a job has a pod group while it is going, and none once it is at its end. The group
is made on the way into a pass and deleted on the way out of a job. These are two places with conditions of their
own: the first goes by the verdict that is stored, the second also by the one that is about to be written, and both
are reached only by a pass that is not held up. `GangPass` says what becomes of the group in one pass and what the pods
are like that it makes, and `pod_group_lifecycle` follows the group along the passes over a job. Once a pass has brought
the job to its end, no later one makes a group again.
-/
import TrainingJobs.Proofs.CleanPolicy
import TrainingJobs.Proofs.Finality
import TrainingJobs.Proofs.Meeting

set_option autoImplicit false

namespace TrainingJobs

open Controller MemoryStore

/-- A map that is left out when it is empty can be read back. -/
theorem Dict.getD_unless_isEmpty {κ α : Type} [Ord κ] (d : Dict κ α) :
    (if d.isEmpty then none else some d).getD ∅ = d := by
  by_cases hd : d.isEmpty
  · rw [if_pos hd]
    exact Dict.ext (List.isEmpty_iff.1 hd).symm
  · rw [if_neg hd, Option.getD_some]

/-! ## The pods of a gang -/

/-- Who places the pod, if that is said. -/
def Pod.scheduler? (pod : Pod) : Option String := pod.spec.bind (·.schedulerName)

/-- Who places the pods of the type, if its template says so. -/
def ReplicaSpec.scheduler? (spec : ReplicaSpec) : Option String := spec.template.spec.bind (·.schedulerName)

namespace Job

variable {job : Job} {scheduler : String} {config : Config} {slot : String × Nat} {pod : Pod}

/-- A template of the job names another scheduler, and one with a name. -/
def NamesAnother (job : Job) (scheduler : String) : Prop :=
  ∃ e ∈ job.spec.replicaSpecs.entries, ∃ name, e.2.scheduler? = some name ∧ name ≠ "" ∧ name ≠ scheduler

/-- The test for a scheduler of its own says that a template of the job names another. -/
theorem hasOwnScheduler_iff : job.hasOwnScheduler scheduler = true ↔ job.NamesAnother scheduler := by
  unfold hasOwnScheduler NamesAnother Dict.values ReplicaSpec.scheduler?
  rw [List.any_map, List.any_eq_true]
  apply exists_congr
  intro e
  apply and_congr_right
  intro _
  simp only [Function.comp_apply]
  -- A template without a scheduler counts for neither side.
  rcases e.2.template.spec.bind (·.schedulerName) with _ | name
  · simp
  · simp

/-- A pod as it is made for the gang of the job. It is tied to the pod group. The scheduler that places gangs is to
place it, unless a template of the job names another; then the template of each pod decides for it alone. -/
structure GangPod (job : Job) (scheduler : String) (pod : Pod) : Prop where
  tied : (pod.metadata.annotations.getD ∅).get? Label.podGroup = some (podGroupName job.name)
  together : ¬ job.NamesAnother scheduler → pod.scheduler? = some scheduler
  apart : job.NamesAnother scheduler → ∃ slot ∈ job.slotList, ∃ spec,
    (slot.1, spec) ∈ job.spec.replicaSpecs.entries ∧ nameOf pod = slotName job.name slot.1 slot.2 ∧
      pod.scheduler? = spec.scheduler?

/-- The variables that a replica is told do not change who places it. -/
theorem scheduler_slotTemplate {template made : PodTemplate} {replicaType : String} {index : Nat}
    (h : (job.slotTemplate template replicaType index).toOption = some made) :
    (made.spec.getD {}).schedulerName = template.spec.bind (·.schedulerName) := by
  unfold slotTemplate at h
  rcases hvars : job.rendezvous replicaType index with e | assignments
  · rw [hvars] at h
    nomatch h
  · rw [hvars] at h
    obtain rfl : template.withVars assignments = made := Option.some.inj h
    unfold PodTemplate.withVars
    rcases template.spec with _ | spec <;> rfl

/-- The pod that is made for a slot belongs to the gang. -/
theorem gangPod_of_podOf? (hgang : config.gang = true) (hslot : slot ∈ job.slotList)
    (h : job.podOf? config slot = some pod) : job.GangPod config.scheduler pod := by
  unfold podOf? at h
  simp only [Option.bind_eq_bind, Option.bind_eq_some_iff, Option.some.injEq] at h
  -- The pod exists only where its spec, its template and its owner do.
  obtain ⟨spec, hspec, made, hmade, owner, -, rfl⟩ := h
  constructor
  · unfold podFor
    simp only [hgang, if_true]
    rw [Dict.getD_unless_isEmpty]
    exact Dict.get?_insert_self _ _ _
  · intro hnone
    have hdecided : job.hasOwnScheduler config.scheduler = false := by
      rw [← Bool.not_eq_true, hasOwnScheduler_iff]
      exact hnone
    unfold podFor
    simp only [hgang, hdecided]
    rfl
  · intro hnamed
    refine ⟨slot, hslot, spec, Dict.get?_eq_some_iff.1 hspec, rfl, ?_⟩
    unfold podFor ReplicaSpec.scheduler?
    rw [← scheduler_slotTemplate hmade]
    simp only [hgang, hasOwnScheduler_iff.2 hnamed]
    rfl

/-- It still does as it is stored. -/
theorem GangPod.placed (h : job.GangPod scheduler pod) (s : MemoryStore) (ns : String) :
    job.GangPod scheduler (s.asPlaced ns (asCreated pod)) := by
  have hannotations : (s.asPlaced ns (asCreated pod)).metadata.annotations = pod.metadata.annotations := by
    change (stamped _ _ _).annotations = _
    unfold stamped
    simp only
    split <;> rfl
  have hname : nameOf (s.asPlaced ns (asCreated pod)) = nameOf pod := by
    change (stamped _ _ _).anyName = _
    unfold stamped
    simp only
    split <;> rfl
  refine ⟨?_, h.together, ?_⟩
  · rw [hannotations]
    exact h.tied
  · rw [hname]
    exact h.apart

end Job

/-! ## The pod group -/

/-- Where the pod group of the job at `a` is: in the namespace of the job, under the name of the job. -/
def groupAddress (a : Address) : Address := ⟨a.ns, podGroupName a.name⟩

/-- The group was made for the job. It is to be placed as soon as the pods are that the job says, or else as all its
replicas are, as far as 32 bits can count them. -/
structure PodGroup.MadeFor (group : PodGroup) (job : Job) : Prop where
  name : group.metadata.name = some (podGroupName job.name)
  ns : group.metadata.ns = some job.ns
  minMember : group.minMember = job.spec.runPolicy.minAvailable.getD job.totalReplicas
  /-- Without a number of its own, the group waits for just what the replica types ask for together. -/
  full : job.spec.runPolicy.minAvailable = none → Json.Fits 32 job.spec.demand → group.minMember = job.spec.demand

/-- There is a pod group for the job in the end, the one that was there or a new one. -/
def Grouped (job : Job) (c c' : Controller MemoryStore) : Prop :=
  ∃ group, c'.store.podGroups.get? (groupAddress job.address) = some group ∧
    (c.store.podGroups.get? (groupAddress job.address) = some group ∨
      c.store.podGroups.get? (groupAddress job.address) = none ∧ group.MadeFor job)

namespace MemoryStore

variable {s : MemoryStore}

/-- The pod group that is asked for is made for the job; the store only stamps it. -/
theorem madeFor_asPlaced (s : MemoryStore) (job : Job) (owner : OwnerReference) :
    (s.asPlaced job.ns (job.podGroupFor owner)).MadeFor job := by
  constructor
  · change (stamped _ _ _).name = _
    unfold stamped
    rfl
  · change (stamped _ _ _).ns = _
    unfold stamped
    rfl
  · rfl
  · intro hnone hfits
    rw [← JobSpec.toInt_totalReplicas hfits]
    change job.spec.runPolicy.minAvailable.getD job.totalReplicas = _
    rw [hnone]
    rfl

/-- A pod group that is asked for where there is none is made, if the store refuses nothing. -/
theorem run_createPodGroup_of_absent {ns : String} {group : PodGroup} (hfailures : s.failures = [])
    (habsent : s.podGroups.get? ⟨ns, nameOf group⟩ = none) :
    (ObjectStore.createPodGroup ns group : StoreM MemoryStore PodGroup).run s =
      (.ok (s.asPlaced ns group), withPodGroup ns group s) := by
  have hnot : ¬ s.podGroups.contains ⟨ns, nameOf group⟩ = true := by
    rw [Dict.contains, habsent]
    exact Bool.false_ne_true
  refine (run_guarded_of_nil _ _ hfailures).trans ?_
  rw [run_create, if_neg hnot]
  rfl

end MemoryStore

namespace Controller

variable {now : Timestamp} {job : Job} {c : Controller MemoryStore}

/-- After a pass has seen to the pod group there is one, if nothing is refused. -/
theorem grouped_ensurePodGroup {owner : OwnerReference} (howner : job.ownerReference = .ok owner)
    (hfailures : c.store.failures = []) : Grouped job c ((ensurePodGroup job).run c).2 := by
  have hpass : Yields (ensurePodGroup job) c (fun _ c' => Grouped job c c') fun _ c' => Grouped job c c' := by
    unfold ensurePodGroup
    rw [yields_bind, yields_request, run_getPodGroup]
    simp only
    -- Nothing there: the group is created. Something there: it is left as it is, whoever made it.
    rcases hthere : c.store.podGroups.get? ⟨job.ns, podGroupName job.name⟩ with _ | group
    · rw [if_pos Option.isNone_none, howner, yields_bind, yields_settle]
      simp only
      rw [yields_bind, yields_attempt, yields_request, run_createPodGroup_of_absent hfailures hthere]
      exact ⟨_, Dict.get?_insert_self _ _ _, .inr ⟨hthere, madeFor_asPlaced _ _ _⟩⟩
    · exact ⟨group, hthere, .inl hthere⟩
  exact hpass.run

/-- After it was deleted there is none. -/
theorem groupless_deletePodGroup (hfailures : c.store.failures = []) :
    Yields (deletePodGroup job) c (fun _ c' => c'.store.podGroups.get? (groupAddress job.address) = none)
      fun _ _ => False := by
  have hgone : (withoutPodGroup (groupAddress job.address) c.store).podGroups.get? (groupAddress job.address) =
      none := by
    rw [withoutPodGroup_eq, Dict.get?_without, if_pos (List.mem_singleton_self _)]
  unfold deletePodGroup
  rw [yields_bind, yields_request, run_getPodGroup]
  simp only
  -- As `deletePodGroup` does, by whether the group is found.
  rcases hthere : c.store.podGroups.get? ⟨job.ns, podGroupName job.name⟩ with _ | group
  · exact hthere
  · rw [if_pos Option.isSome_some, yields_bind, yields_tell]
    apply yields_attempt_delete_of_nil
    · exact hfailures
    · intro habsent
      exact absurd (hthere.symm.trans habsent) (Option.some_ne_none group)
    · exact hgone
    · intro e he
      simp only [he, if_true]
      exact hgone

/-- The pod groups are as they were. -/
def SameGroups (c c' : Controller MemoryStore) : Prop := c'.store.podGroups = c.store.podGroups

theorem sameGroups_frame : Frame SameGroups := ⟨fun _ => rfl, fun h₁ h₂ => h₂.trans h₁, fun _ _ => rfl⟩

/-- Writing a status leaves pod groups alone. -/
theorem sameGroups_updateJobStatus (status : JobStatus) (c : Controller MemoryStore) :
    SameGroups c (requested (ObjectStore.updateJobStatus job status) c) :=
  (effect_updateJobStatus job status c.store).podGroups_eq (podGroups_recorded _ _ _)

/-- The end of a pass, once the cleaning up is done, leaves pod groups alone. -/
theorem sameGroups_conclude (status : JobStatus) (failure : Option String) :
    Keeps SameGroups (conclude now job status failure : ControllerM MemoryStore Outcome) :=
  keeps_conclude sameGroups_frame (fun c => (effect_deleteJob _ c.store).podGroups_eq rfl)
    (sameGroups_updateJobStatus _)

/-- A pass that brings pods and services in line leaves pod groups alone. -/
theorem sameGroups_advance (pods : List Pod) (services : List Service) (status : JobStatus) :
    Keeps SameGroups (advance now job pods services status : ControllerM MemoryStore Outcome) := by
  refine keeps_advance sameGroups_frame (fun e _ => ⟨?_, ?_⟩) sameGroups_updateJobStatus
  · exact keeps_reconcilePods sameGroups_frame (fun _ _ _ => rfl) (fun _ _ _ => rfl)
      (fun _ _ c => (effect_deletePod _ c.store).podGroups_eq rfl)
      fun _ _ _ _ c _ _ => (effect_createPod _ _ c.store).podGroups_eq rfl
  · exact keeps_reconcileServices sameGroups_frame (fun _ _ _ => rfl) (fun _ _ _ => rfl)
      fun _ _ _ _ c _ _ => (effect_createService _ _ c.store).podGroups_eq rfl

/-- The end of a job leaves no pod group where pods are placed together. -/
theorem groupless_terminate {pods : List Pod} {status : JobStatus} {failure : Option String}
    (hgang : c.config.gang = true) (hfailures : c.store.failures = []) :
    Yields (terminate now job pods status failure) c
      (fun _ c' => c'.store.podGroups.get? (groupAddress job.address) = none) fun _ _ => True := by
  rw [terminate_eq, yields_bind]
  refine (sameRecords_cleanUpPods job _ c).mono (fun _ c₁ h₁ => ?_) fun _ _ _ => trivial
  -- The clean-up before it changes neither the config nor the failures to come.
  have hgang₁ : c₁.config.gang = true := by
    rw [h₁.config]
    exact hgang
  have hfailures₁ : c₁.store.failures = [] := List.sublist_nil.1 (hfailures ▸ h₁.failures)
  rw [yields_bind, yields_get, if_pos hgang₁, yields_bind]
  refine (groupless_deletePodGroup hfailures₁).mono (fun _ c₂ h₂ => ?_) fun _ _ => False.elim
  refine (sameGroups_conclude status failure c₂).mono (fun _ c₃ h₃ => ?_) fun _ _ _ => trivial
  rw [show c₃.store.podGroups = c₂.store.podGroups from h₃]
  exact h₂

end Controller

/-! ## A pass -/

/-- Pods are placed together and the store refuses nothing. If there is a job at `a`, it is acceptable, has an identity
and is not going. -/
structure GangScheduled (a : Address) (c : Controller MemoryStore) : Prop where
  gang : c.config.gang = true
  failures : c.store.failures = []
  job : ∀ job, c.store.jobs.get? a = some job → job.address = a ∧ job.metadata.uid.isSome = true ∧
    job.withDefaults.spec.fault? = none ∧ job.isLeaving = false

instance (a : Address) (c : Controller MemoryStore) : Decidable (GangScheduled a c) :=
  decidable_of_iff (c.config.gang = true ∧ c.store.failures = [] ∧ ∀ job ∈ c.store.jobs.get? a,
      job.address = a ∧ job.metadata.uid.isSome = true ∧ job.withDefaults.spec.fault? = none ∧ job.isLeaving = false)
    ⟨fun h => ⟨h.1, h.2.1, h.2.2⟩, fun h => ⟨h.gang, h.failures, h.job⟩⟩

/-- What a pass at `now` over the stored job has made of its pod group. -/
structure GroupPass (a : Address) (stored : Job) (now : Timestamp) (c c' : Controller MemoryStore) : Prop where
  /-- There is one if the pass attended to the job and left it without a verdict. -/
  there : Attends now stored.withDefaults c → ∀ left, c'.store.jobs.get? a = some left →
    left.currentStatus.isFinished = false → ∃ group, c'.store.podGroups.get? (groupAddress a) = some group
  /-- There is none if the pass brought the job to its end. -/
  gone : stored.ReachesEnd now c → c'.store.podGroups.get? (groupAddress a) = none
  /-- One that was not there before was made for the job. -/
  made : ∀ group, c'.store.podGroups.get? (groupAddress a) = some group →
    c.store.podGroups.get? (groupAddress a) = some group ∨
      c.store.podGroups.get? (groupAddress a) = none ∧ group.MadeFor stored.withDefaults

/-- What a pass has made of the pod group, and of the pods: one that was not there before belongs to the gang. -/
structure GangPass (a : Address) (stored : Job) (now : Timestamp) (c c' : Controller MemoryStore) : Prop
    extends GroupPass a stored now c c' where
  pods : ∀ x pod, c'.store.pods.get? x = some pod →
    c.store.pods.get? x = some pod ∨ stored.withDefaults.GangPod c.config.scheduler pod

/-- Where pods are placed together, a pod that has come up belongs to the gang of the job. -/
structure AddsGang (job : Job) (c c' : Controller MemoryStore) : Prop where
  config : c'.config = c.config
  pods : c.config.gang = true → ∀ x pod, c'.store.pods.get? x = some pod →
    c.store.pods.get? x = some pod ∨ job.GangPod c.config.scheduler pod

namespace Controller

variable {key : String} {a : Address} {now : Timestamp} {job stored : Job} {c c' : Controller MemoryStore}

/-! ### The pods that it makes -/

/-- Where the pods are the same, none was added outside the gang. -/
theorem addsGang_of_pods_eq (hconfig : c'.config = c.config) (hpods : c'.store.pods = c.store.pods) :
    AddsGang job c c' := by
  refine ⟨hconfig, ?_⟩
  intro _ x pod hpod
  rw [hpods] at hpod
  exact .inl hpod

/-- A call that is no creation adds no pod. -/
theorem enduring_addsGang (job : Job) : Enduring (fun call => call.creates = false) (AddsGang job) where
  refl _ := addsGang_of_pods_eq rfl rfl
  trans h₁ h₂ := by
    refine ⟨h₂.config.trans h₁.config, ?_⟩
    intro hgang x pod hpod
    have hadded := h₂.pods (h₁.config ▸ hgang) x pod hpod
    rw [h₁.config] at hadded
    -- A pod found at the end was there in the middle, or the second half made it.
    obtain hbefore | hnew := hadded
    · exact h₁.pods hgang x pod hbefore
    · exact .inr hnew
  told _ _ := addsGang_of_pods_eq rfl rfl
  call call hcall c := ⟨rfl, fun _ x pod hpod => .inl ((makesNothing_call call hcall c).pods x pod hpod)⟩
  expected _ _ := addsGang_of_pods_eq rfl rfl

/-- The pod of a slot is stored with what makes it one of the gang. -/
theorem addsGang_createPod {slot : String × Nat} {pod : Pod} (hslot : slot ∈ job.slotList)
    (hpod : job.podOf? c.config slot = some pod) :
    AddsGang job c (requested (ObjectStore.createPod job.ns pod) c) := by
  refine ⟨rfl, ?_⟩
  intro hgang x found hfound
  have heffect := effect_createPod job.ns pod c.store
  unfold requested at hfound
  generalize ((ObjectStore.createPod job.ns pod : StoreM MemoryStore Pod).run c.store).2 = s at heffect hfound
  cases heffect with
  | refused => exact .inl hfound
  | made =>
    -- The only new entry is the pod asked for, at its own name.
    by_cases hx : x = ⟨job.ns, nameOf (asCreated pod)⟩
    · subst hx
      have hplaced : found = MemoryStore.asPlaced _ job.ns (asCreated pod) :=
        (Option.some.inj ((Dict.get?_insert_self _ _ _).symm.trans hfound)).symm
      rw [hplaced]
      exact .inr ((Job.gangPod_of_podOf? hgang hslot hpod).placed _ _)
    · exact .inl ((Dict.get?_insert_ne _ _ hx).symm.trans hfound)

/-- Whatever pods a pass over a job makes belong to the gang of the job. -/
theorem addsGang_sync (now : Timestamp) (hkey : splitKey? key = some (a.ns, a.name))
    (hstored : c.store.jobs.get? a = some stored) : AddsGang stored.withDefaults c ((sync now key).run c).2 := by
  refine kept_sync_of_creations (enduring_addsGang stored.withDefaults) hkey ?_ (fun ns group c => ?_)
    (fun slot pod c hslot hpod => addsGang_createPod hslot hpod) fun slot service c _ _ => ?_
  · rw [yields_request, run_getJob]
    rcases takeFailure? .getJob c.store.failures with _ | ⟨e, rest⟩
    · intro job hjob
      exact Option.some.inj (hjob.symm.trans hstored)
    · trivial
  · exact addsGang_of_pods_eq rfl ((effect_createPodGroup ns group c.store).pods_eq rfl)
  · exact addsGang_of_pods_eq rfl ((effect_createService _ service c.store).pods_eq rfl)

/-! ### The pod group that it leaves -/

/-- A job that a pass has brought to its end has its verdict, or is gone. -/
theorem concluded_sync_of_end {outcome : Outcome} (hkey : splitKey? key = some (a.ns, a.name))
    (hfailures : c.store.failures = []) (hstored : c.store.jobs.get? a = some stored) (haddress : stored.address = a)
    (hend : stored.ReachesEnd now c) (hrun : (sync now key).run c = (.ok outcome, c')) : Concluded a c' := by
  intro left hleft
  obtain ⟨-, hresolved⟩ := (yields_sync now hkey hstored haddress).ok hrun
  rw [Job.outlook_of_end hend] at hresolved
  -- While the store refuses nothing, a job whose time to live is over would be gone.
  have hstays := mt (hresolved.left_of_ended hfailures hstored rfl).1.2 (by rw [hleft]; exact Option.some_ne_none left)
  obtain ⟨hsame, hfinished, -⟩ := left_of_end hkey hstored haddress hend rfl hstays hrun hleft
  exact ⟨hsame.address.trans haddress, hfinished⟩

/-- A pass that is held up does not attend to the job. -/
theorem not_attends_of_heldUp (hheld : job.HeldUp now c) : ¬ Attends now job c := by
  rintro ⟨hstays, hsatisfied⟩
  obtain hleaving | hpending := hheld
  · exact absurd (hstays.symm.trans hleaving) Bool.false_ne_true
  · exact absurd (hpending.symm.trans hsatisfied) Bool.false_ne_true

/-- The pod group is there when a pass looks at the pods of a job that has no verdict. -/
theorem grouped_prepared {owner : OwnerReference} (howner : job.ownerReference = .ok owner)
    (hgang : c.config.gang = true) (hfailures : c.store.failures = []) (hopen : job.currentStatus.isFinished = false) :
    Grouped job c (prepared job c) := by
  unfold prepared
  rw [if_pos (by rw [hgang, hopen]; rfl)]
  exact grouped_ensurePodGroup howner hfailures

/-- A pass that is held up has nothing to do with the pod group. -/
theorem groupPass_of_heldUp (hheld : stored.withDefaults.HeldUp now c) : GroupPass a stored now c c := by
  constructor
  · intro hattends
    exact absurd hattends (not_attends_of_heldUp hheld)
  · intro hend
    exact absurd hheld hend.2.1
  · intro group hgroup
    exact .inl hgroup

/-- Where the job has its verdict or is gone, there need not be a pod group. -/
theorem groupPass_of_concluded (hconcluded : Concluded a c')
    (hnone : c'.store.podGroups.get? (groupAddress a) = none) : GroupPass a stored now c c' := by
  constructor
  · intro _ left hleft hopen
    exact absurd ((hconcluded left hleft).2.symm.trans hopen) (by decide)
  · intro _
    exact hnone
  · intro group hgroup
    exact absurd (hnone.symm.trans hgroup) (by simp)

/-- Where the job is not at its end, it has to have one. -/
theorem groupPass_of_grouped (hopen : ¬ stored.ReachesEnd now c) (h : Grouped stored.withDefaults c c') :
    GroupPass stored.address stored now c c' := by
  obtain ⟨group, hthere, hmade⟩ := h
  constructor
  · intro _ _ _ _
    exact ⟨group, hthere⟩
  · intro hend
    exact absurd hend hopen
  · intro found hfound
    obtain rfl := Option.some.inj (hthere.symm.trans hfound)
    exact hmade

/-- **A pass deals with the pod group of a job as it should**, and ends well. -/
theorem groupPass_sync (now : Timestamp) (hkey : splitKey? key = some (a.ns, a.name)) (hc : GangScheduled a c)
    (hstored : c.store.jobs.get? a = some stored) :
    ∃ outcome c', (sync now key).run c = (.ok outcome, c') ∧ GroupPass a stored now c c' := by
  obtain ⟨haddress, huid, hvalid, -⟩ := hc.job stored hstored
  subst haddress
  have hends := succeeds_sync now hkey hstored rfl hvalid huid hc.failures
  rcases hrun : (sync now key).run c with ⟨e | outcome, c'⟩
  · exact (hends.error hrun).elim
  refine ⟨outcome, c', rfl, ?_⟩
  by_cases hheld : stored.withDefaults.HeldUp now c
  · have hpass : Yields (sync now key) c (fun _ c' => c' = c) fun _ _ => True :=
      yields_sync_of_acceptable hkey hstored hvalid (fun _ _ _ => trivial)
        (yields_attend_of_heldUp hheld fun _ _ => rfl)
    obtain rfl := hpass.ok hrun
    exact groupPass_of_heldUp hheld
  by_cases hend : stored.ReachesEnd now c
  · have hpass : Yields (sync now key) c
        (fun _ c' => c'.store.podGroups.get? (groupAddress stored.address) = none) fun _ _ => True :=
      yields_sync_of_end hkey hstored hend (fun _ _ _ => trivial) fun c₁ h₁ =>
        groupless_terminate (h₁.config ▸ hc.gang) (List.sublist_nil.1 (hc.failures ▸ h₁.failures))
    exact groupPass_of_concluded (concluded_sync_of_end hkey hc.failures hstored rfl hend hrun) (hpass.ok hrun)
  · have hopen : stored.withDefaults.currentStatus.isFinished = false := by
      rw [← Bool.not_eq_true]
      intro hfinished
      exact hend ⟨hvalid, hheld, .inl hfinished⟩
    obtain ⟨owner, howner⟩ := (Job.serviceable_withDefaults hvalid huid).owner
    have hgrouped := grouped_prepared howner hc.gang hc.failures hopen
    -- The group is found or made first, and what is done to pods, services and the status does not touch it.
    have hpass : Yields (sync now key) c (fun _ c' => SameGroups (prepared stored.withDefaults c) c') fun _ _ => True :=
      yields_sync_of_open hkey hstored hvalid hheld hend (fun _ _ _ => trivial)
        ((sameGroups_advance _ _ _ _).mono (fun _ _ => id) fun _ _ _ => trivial)
    have hsame : c'.store.podGroups = (prepared stored.withDefaults c).store.podGroups := hpass.ok hrun
    apply groupPass_of_grouped hend
    unfold Grouped
    rw [hsame]
    exact hgrouped

end Controller

/-! ## A course of passes -/

section Course

variable {key : String} {a : Address} {start c c' : Controller MemoryStore} {visits : List Visit}

/-- Gangs are scheduled for a job as long as its record, the configuration and the failures are the same. -/
theorem GangScheduled.of_sameRecords (h : GangScheduled a c) (hsame : SameRecords c c') : GangScheduled a c' where
  gang := by
    rw [hsame.config]
    exact h.gang
  failures := List.sublist_nil.1 (h.failures ▸ hsame.failures)
  job := by
    rw [hsame.jobs]
    exact h.job

/-- A pass leaves it to be a job whose pods are placed together. -/
theorem GangScheduled.sync (h : GangScheduled a c) (hkey : splitKey? key = some (a.ns, a.name)) (now : Timestamp) :
    GangScheduled a ((sync now key).run c).2 := by
  rcases hstored : c.store.jobs.get? a with _ | stored
  · exact h.of_sameRecords (sameRecords_sync_of_absent now hkey hstored)
  · obtain ⟨haddress, huid, hvalid, hstays⟩ := h.job stored hstored
    have hpass := yields_sync now hkey hstored haddress
    -- A pass that failed wrote no record; one that ended wrote one that is still this job's.
    rcases hrun : (Controller.sync now key).run c with ⟨e | outcome, c'⟩
    · exact h.of_sameRecords (hpass.error hrun)
    · obtain ⟨-, hresolved⟩ := hpass.ok hrun
      refine ⟨?_, List.sublist_nil.1 (h.failures ▸ hresolved.failures), ?_⟩
      · rw [hresolved.config]
        exact h.gang
      · intro left hleft
        obtain ⟨-, hsame⟩ := hresolved.left_of_stored hstored hleft
        have hspec : left.withDefaults.spec = stored.withDefaults.spec := congrArg JobSpec.withDefaults hsame.spec
        exact ⟨hsame.address.trans haddress, hsame.uid huid, hspec ▸ hvalid, hsame.leaving.trans hstays⟩

/-- Something that is not a pass has happened. Nobody has written a status to the job at `a` or touched its pod group,
and it is still a job whose pods are placed together. Its spec may have been edited, and its pods may have changed in
any way. -/
structure SparesGang (a : Address) (c c' : Controller MemoryStore) : Prop where
  undisturbed : Undisturbed a c c'
  scheduled : GangScheduled a c'
  group : c'.store.podGroups.get? (groupAddress a) = c.store.podGroups.get? (groupAddress a)

/-- The passes over a job whose pods are placed together, and where they lead. -/
inductive GangCourse (key : String) (a : Address) (start : Controller MemoryStore) :
    List Visit → Controller MemoryStore → Prop
  | start : GangCourse key a start [] start
  /-- A pass is made. -/
  | visit {visits : List Visit} {c : Controller MemoryStore} (now : Timestamp) (h : GangCourse key a start visits c) :
    GangCourse key a start (visits ++ [⟨now, c⟩]) ((Controller.sync now key).run c).2
  /-- Something else happens. -/
  | aside {visits : List Visit} {c c' : Controller MemoryStore} (h : GangCourse key a start visits c)
    (hc : SparesGang a c c') : GangCourse key a start visits c'

end Course

/-! ### Runs -/

/-- It is a pass over the job under the key, a change of a pod, a delivery by the watch, or time going by. -/
def Happening.Around (key : String) : Happening → Prop
  | move k _ => k = key
  | podRemoved _ => True
  | edited _ _ | failing _ _ => False

instance (key : String) (happening : Happening) : Decidable (happening.Around key) := by
  unfold Happening.Around
  split <;> infer_instance

section Runs

variable {key : String} {a : Address} {start c c' : Controller MemoryStore} {visits : List Visit}

/-- What touches neither jobs nor pod groups spares the gang. -/
theorem GangScheduled.spares (h : GangScheduled a c) (hconfig : c'.config = c.config)
    (hjobs : c'.store.jobs = c.store.jobs) (hfailures : c'.store.failures = c.store.failures)
    (hgroups : c'.store.podGroups = c.store.podGroups) : SparesGang a c c' where
  undisturbed job hjob := by
    rw [hjobs] at hjob
    exact ⟨(h.job job hjob).1, job, hjob, rfl⟩
  scheduled := by
    refine ⟨hconfig ▸ h.gang, hfailures.trans h.failures, ?_⟩
    rw [hjobs]
    exact h.job
  group := by rw [hgroups]

/-- Along a course gangs stay scheduled. -/
theorem GangCourse.scheduled (hkey : splitKey? key = some (a.ns, a.name)) (hstart : GangScheduled a start)
    (hcourse : GangCourse key a start visits c) : GangScheduled a c := by
  induction hcourse with
  | start => exact hstart
  | visit now _ ih => exact ih.sync hkey now
  | aside _ hc _ => exact hc.scheduled

/-- What happens around the passes over a job spares its gang. -/
theorem GangScheduled.spares_make (h : GangScheduled a c) {happening : Happening} (haround : happening.Around key)
    (hnot : happening.visit? key c = none) : SparesGang a c (happening.make c) := by
  -- The happenings that are no pass for this job; `Around` rules out edits and failures.
  cases happening with
  | move k m =>
    cases m with
    | pass now =>
      have hvisit : (Happening.move k (.pass now)).visit? key c = some ⟨now, c⟩ := if_pos haround
      exact absurd (hnot.symm.trans hvisit) (by simp)
    | clock now => exact h.spares rfl rfl rfl rfl
    | phase x phase =>
      have hrest := MemoryStore.sameBesidePods_setPodPhase c.store x phase
      exact h.spares rfl hrest.jobs hrest.failures hrest.podGroups
    | report x status =>
      have hrest := MemoryStore.sameBesidePods_setPodStatus c.store x status
      exact h.spares rfl hrest.jobs hrest.failures hrest.podGroups
    | sight sighting =>
      obtain ⟨hstore, hconfig⟩ := take_leaves sighting c
      exact h.spares hconfig (congrArg MemoryStore.jobs hstore) (congrArg MemoryStore.failures hstore)
        (congrArg MemoryStore.podGroups hstore)
  | podRemoved x => exact h.spares rfl rfl rfl rfl
  | edited x spec => exact haround.elim
  | failing op error => exact haround.elim

/-- What happens around the job continues the course. -/
theorem GangCourse.make (hkey : splitKey? key = some (a.ns, a.name)) (hcourse : GangCourse key a start visits c)
    (hc : GangScheduled a c) {happening : Happening} (haround : happening.Around key) :
    GangCourse key a start (visits ++ (happening.visit? key c).toList) (happening.make c) := by
  rcases hvisit : happening.visit? key c with _ | v
  · rw [Option.toList_none, List.append_nil]
    exact hcourse.aside (hc.spares_make haround hvisit)
  · -- It is a pass over the job, and what is left to do after it is to count or to forget its retries.
    obtain ⟨now, rfl, rfl⟩ := exists_pass_of_visit? hvisit
    have hstore := store_process now key c
    exact (hcourse.visit now).aside ((hc.sync hkey now).spares (config_process now key c)
      (congrArg MemoryStore.jobs hstore) (congrArg MemoryStore.failures hstore)
      (congrArg MemoryStore.podGroups hstore))

/-- **Every run of passes over a job, with its pods changing and the watch reporting in between, is such a course.** -/
theorem gangCourse_runThrough (hkey : splitKey? key = some (a.ns, a.name)) (hstart : GangScheduled a start)
    {happenings : List Happening} (haround : ∀ happening ∈ happenings, happening.Around key) :
    GangCourse key a start (passesOver key happenings start) (runThrough happenings start) := by
  have hrest : ∀ (happenings : List Happening) (visits : List Visit) (c : Controller MemoryStore),
      (∀ happening ∈ happenings, happening.Around key) → GangCourse key a start visits c →
      GangCourse key a start (visits ++ passesOver key happenings c) (runThrough happenings c) := by
    intro happenings
    -- As for `course_runThrough`, carrying that the happenings are all around the key.
    induction happenings with
    | nil =>
      intro visits c _ hcourse
      rw [passesOver, List.append_nil]
      exact hcourse
    | cons happening rest ih =>
      intro visits c haround hcourse
      obtain ⟨hfirst, hothers⟩ := List.forall_mem_cons.1 haround
      rw [passesOver, ← List.append_assoc]
      exact ih _ _ hothers (hcourse.make hkey (hcourse.scheduled hkey hstart) hfirst)
  exact hrest happenings [] start haround .start

end Runs

/-! ## The life of a pod group -/

section Life

variable {key : String} {a : Address} {start c c' : Controller MemoryStore} {visits : List Visit}

/-- The pass brings the job at `a` to its end. -/
def Visit.Ends (a : Address) (v : Visit) : Prop :=
  ∃ stored, v.found.store.jobs.get? a = some stored ∧ stored.ReachesEnd v.now v.found

instance (a : Address) (v : Visit) : Decidable (v.Ends a) :=
  inferInstanceAs (Decidable (∃ stored ∈ v.found.store.jobs.get? a, stored.ReachesEnd v.now v.found))

/-- The pass makes the pod group of the job at `a`. -/
def Visit.MakesGroup (key : String) (a : Address) (v : Visit) (group : PodGroup) : Prop :=
  v.found.store.podGroups.get? (groupAddress a) = none ∧
    ((Controller.sync v.now key).run v.found).2.store.podGroups.get? (groupAddress a) = some group ∧
    ∃ stored, v.found.store.jobs.get? a = some stored ∧ group.MadeFor stored.withDefaults

/-- How things stand with the pod group of a job after some passes over it. -/
structure GangStands (key : String) (a : Address) (start : Controller MemoryStore) (visits : List Visit)
    (c : Controller MemoryStore) : Prop where
  scheduled : GangScheduled a c
  passes : ∀ v ∈ visits, GangScheduled a v.found
  ended : (∃ v ∈ visits, v.Ends a) → Concluded a c ∧ c.store.podGroups.get? (groupAddress a) = none
  origin : ∀ group, c.store.podGroups.get? (groupAddress a) = some group →
    start.store.podGroups.get? (groupAddress a) = some group ∨ ∃ v ∈ visits, v.MakesGroup key a group

/-- What spares the pod group changes nothing about how things stand with it. -/
theorem GangStands.aside (h : GangStands key a start visits c) (hc : SparesGang a c c') :
    GangStands key a start visits c' where
  scheduled := hc.scheduled
  passes := h.passes
  ended hended := by
    obtain ⟨hconcluded, hnone⟩ := h.ended hended
    exact ⟨hconcluded.aside hc.undisturbed, hc.group.trans hnone⟩
  origin := by
    rw [hc.group]
    exact h.origin

/-- After one more pass there is no pod group if that pass or an earlier one brought the job to its end. If there is
one, it was there before or made by that pass. -/
theorem GangStands.visit (hkey : splitKey? key = some (a.ns, a.name)) (h : GangStands key a start visits c)
    (now : Timestamp) : GangStands key a start (visits ++ [⟨now, c⟩]) ((Controller.sync now key).run c).2 where
  scheduled := h.scheduled.sync hkey now
  passes v hv := by
    obtain hv | hv := List.mem_append.1 hv
    · exact h.passes v hv
    · rw [List.mem_singleton.1 hv]
      exact h.scheduled
  ended := by
    rintro ⟨v, hv, hends⟩
    obtain hv | hv := List.mem_append.1 hv
    · -- A pass over a job with its verdict, and one over a job that is gone, make no pod group.
      obtain ⟨hconcluded, hnone⟩ := h.ended ⟨v, hv, hends⟩
      refine ⟨hconcluded.sync hkey now, ?_⟩
      rw [Option.eq_none_iff_forall_ne_some]
      intro group hgroup
      have hbefore := (makesNothing_sync hkey hconcluded now).podGroups _ group hgroup
      exact absurd (hnone.symm.trans hbefore) (by simp)
    · rw [List.mem_singleton.1 hv] at hends
      obtain ⟨stored, hstored, hend⟩ := hends
      obtain ⟨outcome, c', hrun, hpass⟩ := groupPass_sync now hkey h.scheduled hstored
      rw [hrun]
      exact ⟨concluded_sync_of_end hkey h.scheduled.failures hstored (h.scheduled.job stored hstored).1 hend hrun,
        hpass.gone hend⟩
  origin group hgroup := by
    have hearlier : c.store.podGroups.get? (groupAddress a) = some group →
        start.store.podGroups.get? (groupAddress a) = some group ∨
          ∃ v ∈ visits ++ [⟨now, c⟩], v.MakesGroup key a group := by
      intro hbefore
      obtain hstart | ⟨v, hv, hmakes⟩ := h.origin group hbefore
      · exact .inl hstart
      · exact .inr ⟨v, List.mem_append_left _ hv, hmakes⟩
    rcases hstored : c.store.jobs.get? a with _ | stored
    · have hconcluded : Concluded a c := fun job hjob => absurd (hstored.symm.trans hjob) (by simp)
      exact hearlier ((makesNothing_sync hkey hconcluded now).podGroups _ group hgroup)
    · obtain ⟨outcome, c', hrun, hpass⟩ := groupPass_sync now hkey h.scheduled hstored
      rw [hrun] at hgroup
      obtain hbefore | ⟨hnone, hmade⟩ := hpass.made group hgroup
      · exact hearlier hbefore
      · refine .inr ⟨⟨now, c⟩, List.mem_append_right _ (List.mem_singleton_self _), hnone, ?_, stored, hstored, hmade⟩
        rw [hrun]
        exact hgroup

/-- **The pod group of a job is there while the job is going, and gone once it is at its end.** Along every course of
passes over a job whose pods are placed together: a pass that attends to the job and leaves it without a verdict leaves
a pod group, and one that finds it with its verdict or over a limit leaves none. After that there is never one again. A
group that has come up on the way was made by a pass, for the job as it was then. And all pods that a pass makes belong
to the gang of the job. -/
theorem pod_group_lifecycle (hkey : splitKey? key = some (a.ns, a.name)) (hstart : GangScheduled a start)
    (hcourse : GangCourse key a start visits c) :
    (∀ v ∈ visits, ∀ stored, v.found.store.jobs.get? a = some stored →
      ∃ outcome c', (sync v.now key).run v.found = (.ok outcome, c') ∧ GangPass a stored v.now v.found c') ∧
      ((∃ v ∈ visits, v.Ends a) → c.store.podGroups.get? (groupAddress a) = none) ∧
      ∀ group, c.store.podGroups.get? (groupAddress a) = some group →
        start.store.podGroups.get? (groupAddress a) = some group ∨ ∃ v ∈ visits, v.MakesGroup key a group := by
  have hstands : GangStands key a start visits c := by
    -- `GangStands` is the invariant: what it says of the passes so far is what is asked for.
    induction hcourse with
    | start =>
      have hnone : ∀ v : Visit, v ∉ [] := fun _ => List.not_mem_nil
      refine ⟨hstart, fun v hv => absurd hv (hnone v), ?_, fun group hgroup => .inl hgroup⟩
      rintro ⟨v, hv, -⟩
      exact absurd hv (hnone v)
    | visit now _ ih => exact ih.visit hkey now
    | aside _ hc ih => exact ih.aside hc
  refine ⟨?_, fun hended => (hstands.ended hended).2, hstands.origin⟩
  intro v hv stored hstored
  obtain ⟨outcome, c', hrun, hpass⟩ := groupPass_sync v.now hkey (hstands.passes v hv) hstored
  have hadds := addsGang_sync v.now hkey hstored
  rw [hrun] at hadds
  exact ⟨outcome, c', hrun, hpass, hadds.pods (hstands.passes v hv).gang⟩

end Life

/-- A job of a master and two workers where pods are placed together. The workers are to be placed by another
scheduler. -/
def trio : Controller MemoryStore :=
  let template (scheduler : Option String) : PodTemplate :=
    { spec := some { containers := [sampleContainer], schedulerName := scheduler } }
  .new { gang := true } (MemoryStore.insertJob { clock := ⟨0⟩ } (sampleJob {}
    [(masterType, { sampleType 1 .never with template := template none }),
      (workerType, { sampleType 2 .never with template := template (some "volcano") })] none))

/-- The watch reports what is made for the slots of the job. -/
def reportsOn (c : Controller MemoryStore) : List Happening :=
  c.store.jobs.values.flatMap fun stored =>
    let job := stored.withDefaults
    let pods := job.slotList.filterMap fun slot => (job.podOf? c.config slot).map Sighting.podAdded
    let services := job.slotList.filterMap fun slot => (job.serviceOf? slot).map Sighting.serviceAdded
    (pods ++ services).map fun sighting => .move sampleKey (.sight sighting)

/-- The master runs and succeeds, and then its pod goes. -/
def trioSucceeds : List Happening :=
  let master : Address := ⟨"default", slotName "iris" masterType 0⟩
  [.move sampleKey (.pass (sampleTime 1))] ++ reportsOn trio ++
    [.move sampleKey (.phase master "Running"), .move sampleKey (.pass (sampleTime 2)),
      .move sampleKey (.phase master "Succeeded"), .move sampleKey (.pass (sampleTime 30)),
      .move sampleKey (.pass (sampleTime 31)), .podRemoved master, .move sampleKey (.pass (sampleTime 32))]

/-- The first pass makes a pod group for three pods, the one after the verdict deletes it, and the last makes no
other. -/
theorem trio_pod_group :
    (passesOver sampleKey trioSucceeds trio).map (fun v => v.found.store.podGroups.values.map (·.minMember)) =
        [[], [3], [3], [3], []] ∧
      (∃ v ∈ passesOver sampleKey trioSucceeds trio, v.Ends sampleAddress) ∧
      (runThrough trioSucceeds trio).store.podGroups.get? (groupAddress sampleAddress) = none := by
  have hstart : GangScheduled sampleAddress trio := by decide +kernel
  have haround : ∀ happening ∈ trioSucceeds, happening.Around sampleKey := by decide +kernel
  have hended : ∃ v ∈ passesOver sampleKey trioSucceeds trio, v.Ends sampleAddress := by decide +kernel
  have hcourse := gangCourse_runThrough splitKey?_sampleKey hstart haround
  obtain ⟨-, hgone, -⟩ := pod_group_lifecycle splitKey?_sampleKey hstart hcourse
  exact ⟨by decide +kernel, hended, hgone hended⟩

end TrainingJobs
