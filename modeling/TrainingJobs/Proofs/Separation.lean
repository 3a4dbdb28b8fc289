/-
Jobs do not get in each other's way.

A pass over a job deletes services and pod groups by name and pods by what it finds under its labels, and no
request says for which job it is made. That it hits nothing of another job rests on three things: the names
and labels of different jobs are different, even where the name of one job is the beginning of the other's;
whatever stands at the address of a slot was made for that slot; and expectations and retries go by the key
of the job. The middle one is a property of the store (`MemoryStore.Orderly`), which every run keeps that
starts with jobs alone. `jobs_do_not_interfere` is the result: after any such run a pass over one job leaves
everything of every other job as it was.
-/
import TrainingJobs.Proofs.Housing
import TrainingJobs.Proofs.Parts
import TrainingJobs.Proofs.Resolution
import TrainingJobs.Proofs.RestartBudget

set_option autoImplicit false

namespace TrainingJobs

open Controller

/-! ## What belongs to a job -/

/-- What stands at `x` belongs to the job at `b`: it is in the namespace of the job, and it has the labels of
the job or is controlled by it. -/
def Metadata.BelongsTo (b x : Address) (m : Metadata) : Prop :=
  x.ns = b.ns ∧ (Labels.selectedBy m.labelsOrEmpty (Labels.ofJob Job.group b.name) = true ∨
    ∃ owner, controllerOf m.owners = some owner ∧ owner.name = b.name)

/-- What belongs to the job at `b` is there after as before, and nothing has come to belong to it. -/
def Spared {α : Type} [HasMetadata α] (b : Address) (objects objects' : Dict Address α) : Prop :=
  ∀ x o, (HasMetadata.metadata o).BelongsTo b x → (objects'.get? x = some o ↔ objects.get? x = some o)

/-- The job at `b` and everything that belongs to it are the same in both stores. -/
structure MemoryStore.Spares (b : Address) (s s' : MemoryStore) : Prop where
  job : s'.jobs.get? b = s.jobs.get? b
  pods : Spared b s.pods s'.pods
  services : Spared b s.services s'.services
  podGroups : Spared b s.podGroups s'.podGroups

/-- Nothing has changed for the job at `b`, in the store or in what the controller knows of it. -/
structure Controller.Untouched (b : Address) (c c' : Controller MemoryStore) : Prop where
  store : c.store.Spares b c'.store
  expectations : ∀ key, key.jobKey = keyFor b.ns b.name →
    c'.expectations.records.get? key = c.expectations.records.get? key
  retries : c'.retries.count (keyFor b.ns b.name) = c.retries.count (keyFor b.ns b.name)

/-- A pod group stands under the name of the job that controls it, and has no labels. -/
def Metadata.GroupsFor (x : Address) (m : Metadata) : Prop :=
  (∃ owner, controllerOf m.owners = some owner ∧ owner.name = x.name) ∧ m.labels = none

/-- Everything stands where it belongs, and no name of a job has a slash. -/
structure MemoryStore.Orderly (s : MemoryStore) : Prop where
  jobs : ∀ x job, s.jobs.get? x = some job → job.address = x ∧ Slashless x.name
  pods : Housed s.pods
  services : Housed s.services
  podGroups : ∀ x group, s.podGroups.get? x = some group → group.metadata.GroupsFor x

section Belonging

variable {a b x : Address} {m : Metadata}

/-- What was made for a slot belongs to the job it was made for and to no other. -/
theorem Metadata.MadeFor.eq_of_belongsTo {ns jobName replicaType : String} {index : Nat}
    (h : m.MadeFor ns jobName replicaType index) (hjob : Slashless jobName) (hb : Slashless b.name)
    (hbelongs : m.BelongsTo b x) : jobName = b.name := by
  rcases hbelongs.2 with hlabels | ⟨owner, howner, hname⟩
  · have hlabel : m.label? Label.jobName = some (dashed b.name) := by
      refine Labels.selectedBy_iff.1 hlabels _ _ ?_
      rw [Labels.get?_ofJob, if_pos rfl]
    rw [h.label_jobName, Option.some.injEq, dashed_eq_self hjob, dashed_eq_self hb] at hlabel
    exact hlabel
  · obtain ⟨owner', howner', hname'⟩ := h.owner
    rw [howner, Option.some.injEq] at howner'
    rw [← hname', ← howner', hname]

/-- At the address of a slot of one job stands nothing that belongs to another. -/
theorem Metadata.AtHome.not_belongsTo {replicaType : String} {index : Nat} (ha : Slashless a.name)
    (hb : Slashless b.name) (hne : b ≠ a) (htype : IsReplicaType replicaType)
    (h : m.AtHome ⟨a.ns, slotName a.name replicaType index⟩) :
    ¬ m.BelongsTo b ⟨a.ns, slotName a.name replicaType index⟩ := by
  intro hbelongs
  have hname := (h.madeFor ha htype).eq_of_belongsTo ha hb hbelongs
  exact hne (congr (congrArg Address.mk hbelongs.1.symm) hname.symm)

/-- A pod group belongs to the job under whose name it stands. -/
theorem Metadata.GroupsFor.not_belongsTo (hne : b ≠ x) (h : m.GroupsFor x) : ¬ m.BelongsTo b x := by
  obtain ⟨⟨owner, howner, hname⟩, hlabels⟩ := h
  rintro ⟨hns, hselected | ⟨owner', howner', hname'⟩⟩
  · -- Without labels it is selected by no job.
    have hgroup := Labels.selectedBy_iff.1 hselected Label.group Job.group (by
      rw [Labels.get?_ofJob, if_neg (by decide), if_pos rfl])
    unfold labelsOrEmpty at hgroup
    rw [hlabels] at hgroup
    exact absurd hgroup (by simp [EmptyCollection.emptyCollection])
  · rw [howner, Option.some.injEq] at howner'
    subst howner'
    exact hne (congr (congrArg Address.mk hns.symm) (hname'.symm.trans hname))

end Belonging

section Spared

variable {α : Type} [HasMetadata α] {b y : Address} {objects objects' : Dict Address α} {o : α}

theorem Spared.refl (b : Address) (objects : Dict Address α) : Spared b objects objects := fun _ _ _ => Iff.rfl

/-- What is spared twice is spared. -/
theorem Spared.trans {objects₁ objects₂ objects₃ : Dict Address α} (h₁ : Spared b objects₁ objects₂)
    (h₂ : Spared b objects₂ objects₃) : Spared b objects₁ objects₃ :=
  fun x o ho => (h₂ x o ho).trans (h₁ x o ho)

/-- A deletion spares a job if what is deleted does not belong to it. -/
theorem spared_erase (hold : ∀ o, objects.get? y = some o → ¬ (HasMetadata.metadata o).BelongsTo b y) :
    Spared b objects (objects.erase y) := by
  intro x o ho
  rw [Dict.get?_erase]
  by_cases hx : x = y
  · subst hx
    rw [if_pos Std.ReflCmp.compare_self]
    exact ⟨fun h => absurd h (by simp), fun h => absurd ho (hold o h)⟩
  · rw [if_neg fun heq => hx (Std.LawfulEqCmp.compare_eq_iff_eq.1 heq)]

/-- A write spares a job if neither what is written nor what was there belongs to it. -/
theorem spared_insert (hold : ∀ o, objects.get? y = some o → ¬ (HasMetadata.metadata o).BelongsTo b y)
    (hnew : ¬ (HasMetadata.metadata o).BelongsTo b y) : Spared b objects (objects.insert y o) := by
  intro x o' ho'
  by_cases hx : x = y
  · subst hx
    rw [Dict.get?_insert_self, Option.some.injEq]
    exact ⟨fun h => absurd (h ▸ ho') hnew, fun h => absurd ho' (hold o' h)⟩
  · rw [Dict.get?_insert_ne _ _ hx]

/-- What is made for a slot of one job takes no place that belongs to another. -/
theorem Housed.spared_asPlaced [LawfulMetadata α] (h : Housed objects) (s : MemoryStore) {a : Address}
    {replicaType : String} {index : Nat} (ha : Slashless a.name) (htype : IsReplicaType replicaType)
    (hmade : (HasMetadata.metadata o).MadeFor a.ns a.name replicaType index) (hb : Slashless b.name)
    (hne : b ≠ a) : Spared b objects (objects.insert ⟨a.ns, nameOf o⟩ (s.asPlaced a.ns o)) := by
  have hname : nameOf o = slotName a.name replicaType index := hmade.name
  have hhome := (hmade.atHome ha htype).of_sameMarks (s.sameMarks_asPlaced hmade.place)
  rw [hname]
  exact spared_insert (fun _ ho => (h _ _ ho).not_belongsTo ha hb hne htype)
    (hhome.not_belongsTo ha hb hne htype)

end Spared

namespace MemoryStore

variable {b : Address} {s s' s₁ s₂ s₃ : MemoryStore}

theorem Spares.refl (b : Address) (s : MemoryStore) : s.Spares b s := ⟨rfl, .refl b _, .refl b _, .refl b _⟩

/-- And the same of a whole store. -/
theorem Spares.trans (h₁ : s₁.Spares b s₂) (h₂ : s₂.Spares b s₃) : s₁.Spares b s₃ :=
  ⟨h₂.job.trans h₁.job, h₁.pods.trans h₂.pods, h₁.services.trans h₂.services, h₁.podGroups.trans h₂.podGroups⟩

end MemoryStore

/-! ## The changes that a job makes -/

/-- A change of the store stays within the job at `a`: it keeps the store orderly and spares all other jobs. -/
def MemoryStore.Within (a : Address) (s s' : MemoryStore) : Prop :=
  s.Orderly → s'.Orderly ∧ ∀ b, Slashless b.name → b ≠ a → s.Spares b s'

namespace MemoryStore

variable {a : Address} {s s' : MemoryStore} {replicaType : String} {index : Nat}

/-- Where nothing happens, all of it is within the job. -/
theorem Within.refl (a : Address) (s : MemoryStore) : s.Within a s := fun h => ⟨h, fun b _ _ => .refl b s⟩

/-- A request stays within a job if the change that it makes does. -/
theorem Within.of_effect {change : MemoryStore → MemoryStore} (h : Effect change s s')
    (hchange : s.Within a (change s)) : s.Within a s' := by
  cases h with
  | refused => exact fun hs => ⟨⟨hs.jobs, hs.pods, hs.services, hs.podGroups⟩,
      fun b _ _ => ⟨rfl, .refl b _, .refl b _, .refl b _⟩⟩
  | made => exact hchange

/-- The deletion of a pod by the name of a slot is within the job: no pod of another job has this name. -/
theorem within_withoutPod (ha : Slashless a.name) (htype : IsReplicaType replicaType) :
    s.Within a (withoutPod ⟨a.ns, slotName a.name replicaType index⟩ s) := fun hs =>
  ⟨⟨hs.jobs, hs.pods.erase _, hs.services, hs.podGroups⟩, fun b hb hne =>
    ⟨rfl, spared_erase fun _ ho => (hs.pods _ _ ho).not_belongsTo ha hb hne htype, .refl b _, .refl b _⟩⟩

/-- The same of a service. -/
theorem within_withoutService (ha : Slashless a.name) (htype : IsReplicaType replicaType) :
    s.Within a (withoutService ⟨a.ns, slotName a.name replicaType index⟩ s) := fun hs =>
  ⟨⟨hs.jobs, hs.pods, hs.services.erase _, hs.podGroups⟩, fun b hb hne =>
    ⟨rfl, .refl b _, spared_erase fun _ ho => (hs.services _ _ ho).not_belongsTo ha hb hne htype, .refl b _⟩⟩

/-- The creation of a pod that is made for a slot is within the job. -/
theorem within_withPod {pod : Pod} (ha : Slashless a.name) (htype : IsReplicaType replicaType)
    (h : pod.metadata.MadeFor a.ns a.name replicaType index) : s.Within a (withPod a.ns pod s) := fun hs =>
  ⟨⟨hs.jobs, hs.pods.insert_asPlaced s (o := asCreated pod) ha htype h, hs.services, hs.podGroups⟩,
    fun b hb hne => ⟨rfl, hs.pods.spared_asPlaced s (o := asCreated pod) ha htype h hb hne, .refl b _, .refl b _⟩⟩

/-- The same of a service. -/
theorem within_withService {service : Service} (ha : Slashless a.name) (htype : IsReplicaType replicaType)
    (h : service.metadata.MadeFor a.ns a.name replicaType index) :
    s.Within a (withService a.ns service s) := fun hs =>
  ⟨⟨hs.jobs, hs.pods, hs.services.insert_asPlaced s ha htype h, hs.podGroups⟩,
    fun b hb hne => ⟨rfl, .refl b _, hs.services.spared_asPlaced s ha htype h hb hne, .refl b _⟩⟩

/-- The pod group has the name of the job, so its deletion is within the job. -/
theorem within_withoutPodGroup : s.Within a (withoutPodGroup ⟨a.ns, podGroupName a.name⟩ s) := by
  intro hs
  refine ⟨⟨hs.jobs, hs.pods, hs.services, fun x group hgroup => ?_⟩, fun b _ hne =>
    ⟨rfl, .refl b _, .refl b _, spared_erase fun _ ho => (hs.podGroups _ _ ho).not_belongsTo hne⟩⟩
  exact hs.podGroups x group (Dict.get?_of_erase hgroup)

/-- And so is its creation. -/
theorem within_withPodGroup {group : PodGroup} (hname : nameOf group = a.name)
    (hns : group.metadata.ns = some a.ns) (h : group.metadata.GroupsFor a) :
    s.Within a (withPodGroup a.ns group s) := by
  intro hs
  have hmarks := sameMarks_asPlaced s (o := group) hns
  have hgroups : (s.asPlaced a.ns group).metadata.GroupsFor a := by
    obtain ⟨howner, hlabels⟩ := h
    refine ⟨?_, hmarks.labels.trans hlabels⟩
    unfold Metadata.owners at howner ⊢
    rw [show (s.asPlaced a.ns group).metadata.ownerReferences = group.metadata.ownerReferences from hmarks.owners]
    exact howner
  have hpodGroups : (withPodGroup a.ns group s).podGroups = s.podGroups.insert a (s.asPlaced a.ns group) := by
    rw [show a = ⟨a.ns, nameOf group⟩ from congrArg (Address.mk a.ns) hname.symm]
    rfl
  refine ⟨⟨hs.jobs, hs.pods, hs.services, fun x found hfound => ?_⟩, fun b _ hne =>
    ⟨rfl, .refl b _, .refl b _, ?_⟩⟩
  · rw [hpodGroups] at hfound
    -- Only the group at `a` is new, and it belongs to the job at `a` and to no other.
    by_cases hx : x = a
    · subst hx
      rw [Dict.get?_insert_self, Option.some.injEq] at hfound
      exact hfound ▸ hgroups
    · rw [Dict.get?_insert_ne _ _ hx] at hfound
      exact hs.podGroups x found hfound
  · rw [hpodGroups]
    exact spared_insert (fun _ ho => (hs.podGroups _ _ ho).not_belongsTo hne) (hgroups.not_belongsTo hne)

/-- The deletion of the job takes what it owns, and nothing of others. -/
theorem within_withoutJob : s.Within a (withoutJob a s) := by
  intro hs
  have hjobs : ∀ x, (withoutJob a s).jobs.get? x = if compare x a = .eq then none else s.jobs.get? x :=
    Dict.get?_erase s.jobs a
  refine ⟨⟨fun x job hjob => ?_, hs.pods, hs.services, hs.podGroups⟩, fun b _ hne =>
    ⟨?_, .refl b _, .refl b _, .refl b _⟩⟩
  · rw [hjobs] at hjob
    split at hjob
    · exact absurd hjob (by simp)
    · exact hs.jobs x job hjob
  · rw [hjobs, if_neg fun heq => hne (Std.LawfulEqCmp.compare_eq_iff_eq.1 heq)]

/-- A job that is written to its place keeps the store orderly, and spares the others. -/
theorem Orderly.insert_job {job : Job} (hs : s.Orderly) (hjob : job.address = a) (ha : Slashless a.name)
    (statusUpdates version : Nat) :
    let s' := { s with jobs := s.jobs.insert a job, statusUpdates := statusUpdates, version := version }
    s'.Orderly ∧ ∀ b, b ≠ a → s.Spares b s' := by
  refine ⟨⟨fun x found hfound => ?_, hs.pods, hs.services, hs.podGroups⟩, fun b hne =>
    ⟨Dict.get?_insert_ne _ _ hne, .refl b _, .refl b _, .refl b _⟩⟩
  by_cases hx : x = a
  · subst hx
    rw [Dict.get?_insert_self, Option.some.injEq] at hfound
    exact hfound ▸ ⟨hjob, ha⟩
  · rw [Dict.get?_insert_ne _ _ hx] at hfound
    exact hs.jobs x found hfound

/-- Its status is its own. -/
theorem within_recorded (status : JobStatus) : s.Within a (recorded a status s) := by
  intro hs
  unfold recorded
  split
  · exact Within.refl a s hs
  · -- The record written keeps the address, so it is filed where it was found.
    next job hjob =>
    obtain ⟨haddress, hslash⟩ := hs.jobs a job hjob
    have hwritten : (s.withRecord job status).address = a :=
      (SameJob.of_stamped job (s.version + 1) s.clock status).address.trans haddress
    obtain ⟨horderly, hspares⟩ := hs.insert_job hwritten hslash (s.statusUpdates + 1) (s.version + 1)
    exact ⟨horderly, fun b _ => hspares b⟩

end MemoryStore

/-! ## A pass stays within its job -/

namespace Controller

variable {a : Address} {job : Job} {now : Timestamp} {c : Controller MemoryStore}

/-- What a step does stays within the job at `a`: the store is still orderly, and no other job is touched. -/
def Confined (a : Address) (c c' : Controller MemoryStore) : Prop :=
  c.store.Orderly → c'.store.Orderly ∧ ∀ b, Slashless b.name → b ≠ a → Untouched b c c'

theorem Untouched.refl (b : Address) (c : Controller MemoryStore) : Untouched b c c :=
  ⟨.refl b _, fun _ _ => rfl, rfl⟩

/-- A job that neither step touches is untouched. -/
theorem Untouched.trans {b : Address} {c₁ c₂ c₃ : Controller MemoryStore} (h₁ : Untouched b c₁ c₂)
    (h₂ : Untouched b c₂ c₃) : Untouched b c₁ c₃ :=
  ⟨h₁.store.trans h₂.store, fun key hkey => (h₂.expectations key hkey).trans (h₁.expectations key hkey),
    h₂.retries.trans h₁.retries⟩

/-- What the controller says and computes touches no job. -/
theorem confined_frame (a : Address) : Frame (Confined a) where
  refl c hs := ⟨hs, fun b _ _ => .refl b c⟩
  trans h₁ h₂ hs := by
    obtain ⟨hs₁, hspared₁⟩ := h₁ hs
    obtain ⟨hs₂, hspared₂⟩ := h₂ hs₁
    exact ⟨hs₂, fun b hb hne => (hspared₁ b hb hne).trans (hspared₂ b hb hne)⟩
  told c _ hs := ⟨hs, fun b _ _ => ⟨.refl b _, fun _ _ => rfl, rfl⟩⟩

/-- A request is confined if the change that it asks for is within the job. -/
theorem confined_requested {α : Type} {op : StoreM MemoryStore α} {change : MemoryStore → MemoryStore}
    (heffect : MemoryStore.Effect change c.store (op.run c.store).2) (h : c.store.Within a (change c.store)) :
    Confined a c (requested op c) := by
  intro hs
  obtain ⟨horderly, hspares⟩ := MemoryStore.Within.of_effect heffect h hs
  exact ⟨horderly, fun b hb hne => ⟨hspares b hb hne, fun _ _ => rfl, rfl⟩⟩

/-- A change of the expectations stays within a job if it only touches records under the key of the job. -/
theorem confined_expected {f : Expectations → Expectations} (ha : Slashless a.name)
    (h : ∀ e key, key.jobKey ≠ keyFor a.ns a.name → (f e).records.get? key = e.records.get? key) :
    Confined a c (expected f c) := by
  refine fun hs => ⟨hs, fun b hb hne => ⟨.refl b _, fun key hkey => h _ key fun heq => hne ?_, rfl⟩⟩
  exact address_eq_of_keyFor_eq hb ha (hkey.symm.trans heq)

section Expectations

variable (hjob : Slashless job.name)
include hjob

/-- What is expected for a job is kept under its own keys. -/
theorem confined_set (replicaType : String) (kind : Controllee) (adds dels : Int) (now : Timestamp) :
    Confined job.address c (expected (fun x => x.set (.of job.key replicaType kind) adds dels now) c) :=
  confined_expected hjob fun _ _ hne => Dict.get?_insert_ne _ _ fun heq => hne (congrArg _ heq)

/-- And taken off under these. -/
theorem confined_lower (replicaType : String) (kind : Controllee) (adds dels : Int) :
    Confined job.address c (expected (fun x => x.lower (.of job.key replicaType kind) adds dels) c) :=
  confined_expected hjob fun _ _ hne => Dict.get?_modify_ne _ _ fun heq => hne (congrArg _ heq)

end Expectations

section Parts

open MemoryStore

variable (hjob : Slashless job.name)

theorem confined_updateJobStatus (status : JobStatus) (c : Controller MemoryStore) :
    Confined job.address c (requested (ObjectStore.updateJobStatus job status) c) :=
  confined_requested (effect_updateJobStatus job status c.store) (within_recorded status)

theorem confined_getPodGroup (b : Address) (c : Controller MemoryStore) :
    Confined a c (requested (ObjectStore.getPodGroup b) c) := (confined_frame a).refl c

/-- Seeing to the pod group is confined to the job. -/
theorem confined_ensurePodGroup : Keeps (Confined job.address) (ensurePodGroup job) := by
  refine keeps_ensurePodGroup (confined_frame _) (confined_getPodGroup _) fun owner c howner => ?_
  refine confined_requested (effect_createPodGroup job.ns _ c.store) (within_withPodGroup rfl rfl ⟨?_, rfl⟩)
  exact ⟨owner, Job.controllerOf_ownerReference howner⟩

include hjob

/-- Bringing a job in line stays within it if its plans replace pods of its own. -/
theorem confined_advance {pods : List Pod} {services : List Service} {status : JobStatus}
    (hvalid : job.spec.fault? = none)
    (hpods : ∀ pod ∈ pods, ∃ replicaType index, IsReplicaType replicaType ∧
      nameOf pod = slotName job.name replicaType index) :
    Keeps (Confined job.address) (advance now job pods services status) := by
  refine keeps_advance (confined_frame _) (fun e he => ⟨?_, ?_⟩) fun status => confined_updateJobStatus status
  · have htype := Job.isReplicaType_of_acceptable hvalid he
    refine keeps_reconcilePods (confined_frame _) (fun adds dels c => confined_set hjob e.1 .pods adds dels now)
      (fun adds dels c => confined_lower hjob e.1 .pods adds dels) (fun name hname c => ?_)
      fun index _ template owner c _ howner => ?_
    · obtain ⟨pod, hpod, rfl, -⟩ := Job.exists_of_mem_restarts hname
      -- The pods deleted are listed ones, which are named by slots of the job.
      obtain ⟨replicaType, index, htype', hslot⟩ := hpods pod (List.mem_filter.1 hpod).1
      rw [hslot]
      exact confined_requested (effect_deletePod _ c.store) (within_withoutPod (a := job.address) hjob htype')
    · exact confined_requested (effect_createPod job.ns _ c.store)
        (within_withPod (a := job.address) hjob htype (Job.madeFor_podFor howner c.config e.1 index _ template))
  · have htype := Job.isReplicaType_of_acceptable hvalid he
    refine keeps_reconcileServices (confined_frame _)
      (fun adds dels c => confined_set hjob e.1 .services adds dels now)
      (fun adds dels c => confined_lower hjob e.1 .services adds dels) fun index _ port owner c _ howner => ?_
    exact confined_requested (effect_createService job.ns _ c.store)
      (within_withService (a := job.address) hjob htype (Job.madeFor_serviceFor howner e.1 index port))

/-- Bringing a job to its end stays within it if the pods that were listed are its own. -/
theorem confined_terminate {pods : List Pod} {status : JobStatus} {failure : Option String}
    (hpods : ∀ pod ∈ pods, ∃ replicaType index, IsReplicaType replicaType ∧
      nameOf pod = slotName job.name replicaType index) :
    Keeps (Confined job.address) (terminate now job pods status failure) := by
  refine keeps_terminate (confined_frame _) (fun pod hpod c => ?_) (fun pod hpod c => ?_)
    (confined_getPodGroup _) (fun c => ?_) (fun c => ?_) (confined_updateJobStatus _)
    fun replicaType c => confined_lower hjob replicaType .pods 0 1
  · obtain ⟨replicaType, index, htype, hslot⟩ := hpods pod hpod
    rw [hslot]
    exact confined_requested (effect_deletePod _ c.store) (within_withoutPod (a := job.address) hjob htype)
  · obtain ⟨replicaType, index, htype, hslot⟩ := hpods pod hpod
    rw [hslot]
    exact confined_requested (effect_deleteService _ c.store)
      (within_withoutService (a := job.address) hjob htype)
  · exact confined_requested (effect_deletePodGroup _ c.store) (within_withoutPodGroup (a := job.address))
  · exact confined_requested (effect_deleteJob _ c.store) within_withoutJob

/-- A look at the pods of an acceptable job stays within it: the pods that it lists are its own. -/
theorem confined_reconcileJob (hvalid : job.spec.fault? = none) :
    Keeps (Confined job.address) (reconcileJob now job) := by
  intro c
  -- `Confined` promises nothing of a store that is not orderly.
  by_cases hs : c.store.Orderly
  · have hpods : ∀ pod ∈ job.podsIn c.store, ∃ replicaType index, IsReplicaType replicaType ∧
        nameOf pod = slotName job.name replicaType index := by
      intro pod hpod
      obtain ⟨replicaType, index, htype, hname, -⟩ := hs.pods.exists_slot_of_listed hjob hpod
      exact ⟨replicaType, index, htype, hname⟩
    rw [yields_reconcileJob_iff]
    simp only
    split
    · exact confined_terminate hjob hpods c
    · exact confined_advance hjob hvalid hpods c
  · exact (Yields.trivial _ c).mono (fun _ _ _ hs' => absurd hs' hs) fun _ _ _ hs' => absurd hs' hs

/-- Attending to a job with an acceptable spec is confined to it. The types of such a job are the two known ones, so
the names of its slots are told from all others. -/
theorem confined_attend (hvalid : job.spec.fault? = none) : Keeps (Confined job.address) (attend now job) := by
  have hR := confined_frame job.address
  unfold attend
  split
  · exact hR.pure _
  · refine hR.bind hR.get fun c => ?_
    split
    · exact hR.pure _
    · refine hR.bind hR.get fun c => ?_
      split
      · exact hR.bind (keeps_attempt confined_ensurePodGroup) fun _ => confined_reconcileJob hjob hvalid
      · exact confined_reconcileJob hjob hvalid

omit hjob

/-- Turning a job down is confined to it. -/
theorem confined_reject (fault : SpecFault) : Keeps (Confined job.address) (reject now job fault) := by
  have hR := confined_frame job.address
  unfold reject
  simp only
  split
  · exact hR.pure _
  · exact hR.bind (hR.tell _) fun _ => keeps_request (confined_updateJobStatus _)

end Parts

/-- A pass over the job under a key stays within that job. -/
theorem confined_sync {key : String} (hkey : splitKey? key = some (a.ns, a.name)) (ha : Slashless a.name) :
    Keeps (Confined a) (sync now key) := by
  intro c
  by_cases hs : c.store.Orderly
  · have hread : ∀ e rest, MemoryStore.takeFailure? .getJob c.store.failures = some (e, rest) →
        Confined a c { c with store := { c.store with failures := rest } } := fun e rest _ hs =>
      ⟨⟨hs.jobs, hs.pods, hs.services, hs.podGroups⟩, fun b _ _ =>
        ⟨⟨rfl, .refl b _, .refl b _, .refl b _⟩, fun _ _ => rfl, rfl⟩⟩
    rcases hstored : c.store.jobs.get? a with _ | stored
    · refine yields_sync_of_absent hkey hstored hread (confined_expected ha fun e k hne => ?_)
      -- Only what is expected under the key itself is dropped.
      rw [Expectations.get?_deleteJob, if_neg (keyFor_of_splitKey? hkey ▸ hne)]
    · obtain ⟨haddress, -⟩ := hs.jobs a stored hstored
      subst haddress
      rcases hfault : stored.withDefaults.spec.fault? with _ | fault
      · have hattend : Keeps (Confined stored.address) (attend now stored.withDefaults) := confined_attend ha hfault
        exact yields_sync_of_acceptable hkey hstored hfault hread (hattend c)
      · have hreject : Keeps (Confined stored.address) (reject now stored.withDefaults fault) := confined_reject fault
        exact yields_sync_of_fault hkey hstored hfault hread (hreject c)
  · exact (Yields.trivial _ c).mono (fun _ _ _ hs' => absurd hs' hs) fun _ _ _ hs' => absurd hs' hs

/-- Counting or forgetting the retries of a job stays within it. -/
theorem confined_retries {retries : Retries} (ha : Slashless a.name)
    (h : ∀ key, key ≠ keyFor a.ns a.name → retries.count key = c.retries.count key) :
    Confined a c { c with retries := retries } :=
  fun hs => ⟨hs, fun b hb hne => ⟨.refl b _, fun _ _ => rfl, h _ fun heq => hne (address_eq_of_keyFor_eq hb ha heq)⟩⟩

/-- A retry counts for the key of the job alone. -/
theorem confined_retry (ha : Slashless a.name) (c : Controller MemoryStore) :
    Confined a c (c.retry (keyFor a.ns a.name)).2 := by
  refine confined_retries ha fun key hne => ?_
  exact (Retries.count_requeue _ key _).trans (if_neg hne.symm)

/-- And so does forgetting the retries. -/
theorem confined_forget (ha : Slashless a.name) (c : Controller MemoryStore) :
    Confined a c (c.forget (keyFor a.ns a.name)) := by
  refine confined_retries ha fun key hne => ?_
  exact (Retries.count_forget _ key _).trans (if_neg hne.symm)

/-- Whatever a pass over a job comes to, it stays within that job. -/
theorem confined_process (ha : Slashless a.name) (now : Timestamp) (c : Controller MemoryStore) :
    Confined a c (c.process now (keyFor a.ns a.name)).2 := by
  have hR := confined_frame a
  have hsync : Confined a c ((sync now (keyFor a.ns a.name)).run c).2 := by
    -- A name with a slash in it makes a key that splits elsewhere or not at all.
    rcases hkey : splitKey? (keyFor a.ns a.name) with _ | ⟨ns, name⟩
    · have hrun := run_sync_of_unsplit hkey now c
      rw [hrun]
      exact hR.refl c
    · obtain ⟨hns, hname⟩ := keyFor_inj (slashless_of_splitKey? hkey) ha (keyFor_of_splitKey? hkey)
      subst hns hname
      exact (confined_sync hkey ha).run c
  unfold process
  rcases hrun : (sync now (keyFor a.ns a.name)).run c with ⟨e | outcome, c'⟩
  · rw [hrun] at hsync
    exact hR.trans hsync (confined_retry ha c')
  · rw [hrun] at hsync
    cases outcome with
    | requeue delay => exact hsync
    | backoff => exact hR.trans hsync (confined_retry ha c')
    | wait => exact hsync
    | done => exact hR.trans hsync (confined_forget ha c')

end Controller

/-! ## Runs -/

/-- One thing that happens to a store with many jobs. -/
inductive Happening where
  /-- Something that may happen while the job under a key is there, a pass over it among others. -/
  | move (key : String) (move : Move)
  | podRemoved (x : Address)
  /-- The spec of a job is edited. -/
  | edited (x : Address) (spec : JobSpec)
  /-- A failure is lined up. -/
  | failing (op : StoreOp) (error : OperatorError)

/-- Where it leads. -/
def Happening.make (c : Controller MemoryStore) : Happening → Controller MemoryStore
  | move key m => m.make key c
  | podRemoved x => { c with store := c.store.removePod x }
  | edited x spec => { c with store := c.store.setJobSpec x spec }
  | failing op error => { c with store := c.store.failNext op error }

/-- Where a run leads in which one thing happens after the other. -/
def runThrough (happenings : List Happening) (c : Controller MemoryStore) : Controller MemoryStore :=
  happenings.foldl Happening.make c

/-- The store holds jobs and nothing else, each at its own address and under a name without slashes. -/
structure MemoryStore.OnlyJobs (s : MemoryStore) : Prop where
  jobs : ∀ x job, s.jobs.get? x = some job → job.address = x ∧ Slashless x.name
  pods : s.pods = ∅
  services : s.services = ∅
  podGroups : s.podGroups = ∅

namespace MemoryStore

variable {s : MemoryStore}

/-- A store with nothing but jobs is orderly. -/
theorem OnlyJobs.orderly (h : s.OnlyJobs) : s.Orderly where
  jobs := h.jobs
  pods := h.pods ▸ housed_empty
  services := h.services ▸ housed_empty
  podGroups x group hgroup := by
    rw [h.podGroups] at hgroup
    exact absurd hgroup (by simp [EmptyCollection.emptyCollection])

/-- A pod that is at home may be replaced by one with the same marks. -/
theorem Orderly.insert_pod {x : Address} {old pod : Pod} (h : s.Orderly) (hold : s.pods.get? x = some old)
    (hmarks : old.metadata.SameMarks pod.metadata) (version : Nat) :
    { s with pods := s.pods.insert x pod, version := version }.Orderly :=
  ⟨h.jobs, h.pods.insert ((h.pods x old hold).of_sameMarks hmarks), h.services, h.podGroups⟩

/-- Whatever has become of the pods, nothing else in the store and no failure lined up is other than before. -/
structure SameBesidePods (s s' : MemoryStore) : Prop where
  jobs : s'.jobs = s.jobs
  services : s'.services = s.services
  podGroups : s'.podGroups = s.podGroups
  failures : s'.failures = s.failures

/-- To set a phase touches nothing beside the pods. -/
theorem sameBesidePods_setPodPhase (s : MemoryStore) (x : Address) (phase : String) :
    SameBesidePods s (s.setPodPhase x phase) := by
  unfold MemoryStore.setPodPhase
  split <;> exact ⟨rfl, rfl, rfl, rfl⟩

/-- Nor does setting a whole status. -/
theorem sameBesidePods_setPodStatus (s : MemoryStore) (x : Address) (status : PodStatus) :
    SameBesidePods s (s.setPodStatus x status) := by
  unfold MemoryStore.setPodStatus
  split <;> exact ⟨rfl, rfl, rfl, rfl⟩

/-- A job whose spec is changed is put where it says it is, and that is where it was. -/
theorem setJobSpec_of_stored {x : Address} {old : Job} (hold : s.jobs.get? x = some old) (hplace : old.address = x)
    (spec : JobSpec) :
    ∃ edited : Job, edited.address = x ∧ edited.status = old.status ∧
      s.setJobSpec x spec = { s with jobs := s.jobs.insert x edited, version := s.version + 1 } := by
  let edited : Job := { old with metadata := stamped (s.version + 1) s.clock old.metadata, spec := spec }
  have hedited : edited.address = x := (address_stamped _ _ _).trans hplace
  refine ⟨edited, hedited, rfl, ?_⟩
  unfold MemoryStore.setJobSpec
  rw [hold]
  change { s with jobs := s.jobs.insert edited.address edited, version := s.version + 1 } = _
  rw [hedited]

theorem Orderly.setPodPhase (h : s.Orderly) (x : Address) (phase : String) : (s.setPodPhase x phase).Orderly := by
  unfold MemoryStore.setPodPhase
  split
  · exact h
  · next old hold =>
    have hmarks : old.metadata.SameMarks { old.metadata with resourceVersion := some (toString (s.version + 1)) } :=
      ⟨rfl, rfl, rfl, rfl, rfl⟩
    exact h.insert_pod hold hmarks _

/-- A pod in another status still belongs to its job. -/
theorem Orderly.setPodStatus (h : s.Orderly) (x : Address) (status : PodStatus) :
    (s.setPodStatus x status).Orderly := by
  unfold MemoryStore.setPodStatus
  split
  · next old hold =>
    have hplace : (stamped (s.version + 1) s.clock old.metadata).address = x :=
      (address_stamped _ _ _).trans (h.pods x old hold).address_eq
    -- The pod is put where it says it is, and that is where it was.
    unfold insertPod stamp
    simp only [HasMetadata.metadata, HasMetadata.withMetadata]
    rw [hplace]
    exact h.insert_pod hold (sameMarks_stamped _ _ _) _
  · exact h

/-- A job with another spec still owns what it owned. -/
theorem Orderly.setJobSpec (h : s.Orderly) (x : Address) (spec : JobSpec) : (s.setJobSpec x spec).Orderly := by
  rcases hjob : s.jobs.get? x with _ | job
  · unfold MemoryStore.setJobSpec
    rw [hjob]
    exact h
  · obtain ⟨haddress, hslash⟩ := h.jobs x job hjob
    obtain ⟨edited, hplace, -, heq⟩ := setJobSpec_of_stored hjob haddress spec
    rw [heq]
    exact (h.insert_job hplace hslash _ _).1

end MemoryStore

section Runs

variable {c : Controller MemoryStore}

/-- Whatever happens leaves the store orderly. -/
theorem orderly_make (h : c.store.Orderly) (happening : Happening) : (happening.make c).store.Orderly := by
  -- Only a pass creates anything, and it stays within one job.
  cases happening with
  | move key m =>
    cases m with
    | pass now =>
      rw [show Happening.make c (.move key (.pass now)) = (c.process now key).2 from rfl]
      rcases hkey : splitKey? key with _ | ⟨ns, name⟩
      · have hrun := run_sync_of_unsplit hkey now c
        rw [store_process, hrun]
        exact h
      · rw [← keyFor_of_splitKey? hkey]
        exact (confined_process (a := ⟨ns, name⟩) (slashless_of_splitKey? hkey) now c h).1
    | clock now => exact ⟨h.jobs, h.pods, h.services, h.podGroups⟩
    | phase x phase => exact h.setPodPhase x phase
    | report x status => exact h.setPodStatus x status
    | sight sighting => exact (store_take sighting c) ▸ h
  | podRemoved x => exact ⟨h.jobs, h.pods.erase x, h.services, h.podGroups⟩
  | edited x spec => exact h.setJobSpec x spec
  | failing op error => exact ⟨h.jobs, h.pods, h.services, h.podGroups⟩

/-- So whatever happens, by induction, the store stays orderly. -/
theorem orderly_runThrough (h : c.store.Orderly) (happenings : List Happening) :
    (runThrough happenings c).store.Orderly := by
  unfold runThrough
  induction happenings generalizing c with
  | nil => exact h
  | cons happening rest ih => exact ih (orderly_make h happening)

end Runs

/-- **Jobs do not interfere.** After any run that starts with jobs alone, a pass over one job leaves the record
of every other job, all its pods, services and pod groups, what is expected of it and how often it was retried
as they were, whatever failures are lined up. -/
theorem jobs_do_not_interfere {start c : Controller MemoryStore} {happenings : List Happening} {a b : Address}
    (hstart : start.store.OnlyJobs) (hrun : runThrough happenings start = c) (ha : Slashless a.name)
    (hb : Slashless b.name) (hne : b ≠ a) (now : Timestamp) :
    Untouched b c (c.process now (keyFor a.ns a.name)).2 := by
  have horderly : c.store.Orderly := hrun ▸ orderly_runThrough hstart.orderly happenings
  exact (confined_process ha now c horderly).2 b hb hne

/-- Two jobs in one namespace, the name of the second beginning with the name of the first. -/
def neighbours : Controller MemoryStore :=
  let job := sampleJob { cleanPodPolicy := some .all }
    [(masterType, sampleType 1 .never), (workerType, sampleType 1 .never)] none
  let other := { job with metadata := { name := some "iris-worker", ns := some "default" } }
  .new { gang := true } (.insertJob (.insertJob { clock := ⟨0⟩ } job) other)

/-- The address of the second. -/
def neighbourAddress : Address := ⟨"default", "iris-worker"⟩

/-- Both jobs get their pods, and the master of the first is done. -/
def settledIn : List Happening :=
  let begun := runThrough
    [.move sampleKey (.pass (sampleTime 1)), .move "default/iris-worker" (.pass (sampleTime 1))] neighbours
  [.move sampleKey (.pass (sampleTime 1)), .move "default/iris-worker" (.pass (sampleTime 1))] ++
    begun.store.pods.values.map (fun pod => .move sampleKey (.sight (.podAdded pod))) ++
    begun.store.services.values.map (fun service => .move sampleKey (.sight (.serviceAdded service))) ++
    [.move sampleKey (.phase ⟨"default", slotName "iris" masterType 0⟩ "Succeeded"),
      .move sampleKey (.pass (sampleTime 2)), .failing .deleteService .exchange]

/-- The pass that cleans up after the first job leaves the second alone. -/
theorem neighbour_is_left_alone :
    (runThrough settledIn neighbours).store.pods.contains ⟨"default", slotName "iris-worker" workerType 0⟩ = true ∧
      Untouched neighbourAddress (runThrough settledIn neighbours)
        ((runThrough settledIn neighbours).process (sampleTime 3) (keyFor "default" "iris")).2 := by
  have hjobs : ∀ e ∈ neighbours.store.jobs.entries, e.2.address = e.1 ∧ Slashless e.1.name := by decide +kernel
  have hstart : neighbours.store.OnlyJobs :=
    ⟨fun x job hjob => hjobs (x, job) (Dict.get?_eq_some_iff.1 hjob), rfl, rfl, rfl⟩
  have ha : Slashless sampleAddress.name := by decide
  have hb : Slashless neighbourAddress.name := by decide
  have hne : neighbourAddress ≠ sampleAddress := by decide
  exact ⟨by decide +kernel, jobs_do_not_interfere hstart rfl ha hb hne (sampleTime 3)⟩

end TrainingJobs
