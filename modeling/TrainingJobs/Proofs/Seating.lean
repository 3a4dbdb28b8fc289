/-
A job never has more pods than it asks for.

The pods of a job stand at addresses that are made of the job's name, the replica type and the index of their
slot, and a pass creates pods only for slots that there are. So in a store that only ever held such pods
(`Job.Seated`, which every pass keeps) there are no more of them than slots, and as soon as one of them has
failed there are fewer active pods than the job asks for (`Job.Seated.active_lt_demand`).
-/
import TrainingJobs.Proofs.Replacement

set_option autoImplicit false

namespace TrainingJobs

namespace Job

/-- Where the pods of the job are stored: one address for every slot. -/
def slotAddresses (job : Job) : List Address :=
  job.spec.replicaSpecs.entries.flatMap fun e =>
    (List.range e.2.slotCount).map fun index => ⟨job.ns, slotName job.name e.1 index⟩

/-- Every pod in the store stands at its own address, and that is the address of a slot. -/
def Seated (job : Job) (s : MemoryStore) : Prop :=
  ∀ b pod, s.pods.get? b = some pod → pod.metadata.address = b ∧ b ∈ job.slotAddresses

end Job

/-- The slots hang on nothing but what is asked for and where the job is. -/
theorem Controller.SameJob.slotAddresses_eq {job job' : Job} (h : Controller.SameJob job job') :
    job'.withDefaults.slotAddresses = job.withDefaults.slotAddresses := by
  have hspec : job'.withDefaults.spec = job.withDefaults.spec := congrArg JobSpec.withDefaults h.spec
  have hns : job'.withDefaults.ns = job.withDefaults.ns := h.ns
  have hname : job'.withDefaults.name = job.withDefaults.name := h.name
  unfold Job.slotAddresses
  rw [hspec, hns, hname]

namespace MemoryStore

/-- A write of an object leaves it where it is. -/
theorem address_stamped (version : Nat) (clock : Timestamp) (m : Metadata) :
    (stamped version clock m).address = m.address := by
  unfold stamped
  rcases m.uid with _ | uid <;> rfl

/-- A pod that is put in its place stands where it says. -/
theorem pods_insertPod (s : MemoryStore) (pod : Pod) :
    (s.insertPod pod).pods = s.pods.insert pod.metadata.address (s.stamp pod).1 :=
  congrArg (fun b => s.pods.insert b (s.stamp pod).1) (address_stamped _ _ _)

/-- A write does not make an object go. -/
theorem deletionTimestamp_stamped (version : Nat) (clock : Timestamp) (m : Metadata) :
    (stamped version clock m).deletionTimestamp = m.deletionTimestamp := by
  unfold stamped
  rcases m.uid with _ | uid <;> rfl

/-- What was written has a uid. -/
theorem isSome_uid_stamped (version : Nat) (clock : Timestamp) (m : Metadata) :
    (stamped version clock m).uid.isSome = true := by
  unfold stamped
  rcases m.uid with _ | uid <;> rfl

end MemoryStore

namespace Controller

open MemoryStore

variable {a : Address} {now : Timestamp} {job : Job} {c c' : Controller MemoryStore}

/-! ## What a pass creates is seated -/

/-- If the pods of the store were seated, they still are. -/
def SeatsKept (job : Job) (c c' : Controller MemoryStore) : Prop := job.Seated c.store → job.Seated c'.store

/-- What the controller says and computes leaves the pods in their seats. -/
theorem seatsKept_frame (job : Job) : Frame (SeatsKept job) where
  refl _ := id
  trans h₁ h₂ := h₂ ∘ h₁
  told _ _ := id

/-- So does all that leaves the pods alone. -/
theorem SeatsKept.of_pods_eq (h : c'.store.pods = c.store.pods) : SeatsKept job c c' := by
  intro hseated b pod hpod
  rw [h] at hpod
  exact hseated b pod hpod

/-- Nor is another pod unseated when one is deleted. -/
theorem seatsKept_deletePod (b : Address) (c : Controller MemoryStore) :
    SeatsKept job c (requested (ObjectStore.deletePod b) c) := by
  intro hseated b' pod hpod
  have heffect := effect_deletePod b c.store
  unfold requested at hpod
  generalize ((ObjectStore.deletePod b : StoreM MemoryStore Unit).run c.store).2 = s at heffect hpod
  cases heffect with
  | refused => exact hseated b' pod hpod
  | made => exact hseated b' pod (Dict.get?_of_erase hpod)

/-- The pod that is made for a slot stands at the address of the slot. -/
theorem seatsKept_createPod {e : String × ReplicaSpec} {index : Nat} (he : e ∈ job.spec.replicaSpecs.entries)
    (hindex : index < e.2.slotCount) (config : Config) (template : PodTemplate) (owner : OwnerReference)
    (c : Controller MemoryStore) :
    SeatsKept job c (requested (ObjectStore.createPod job.ns
      (job.podFor config e.1 index e.2.restart template owner)) c) := by
  intro hseated b pod hpod
  have heffect := effect_createPod job.ns (job.podFor config e.1 index e.2.restart template owner) c.store
  unfold requested at hpod
  generalize ((ObjectStore.createPod job.ns (job.podFor config e.1 index e.2.restart template owner) :
    StoreM MemoryStore Pod).run c.store).2 = s at heffect hpod
  cases heffect with
  | refused => exact hseated b pod hpod
  | made =>
    change (c.store.pods.insert ⟨job.ns, slotName job.name e.1 index⟩ _).get? b = some pod at hpod
    -- The one pod that is new stands where its slot is, and the others have not moved.
    by_cases hb : b = ⟨job.ns, slotName job.name e.1 index⟩
    · subst hb
      rw [Dict.get?_insert_self, Option.some.injEq] at hpod
      subst hpod
      refine ⟨address_stamped _ _ _, List.mem_flatMap.2 ⟨e, he, List.mem_map.2 ⟨index, ?_, rfl⟩⟩⟩
      exact List.mem_range.2 hindex
    · rw [Dict.get?_insert_ne _ _ hb] at hpod
      exact hseated b pod hpod

theorem seatsKept_updateJobStatus (job' : Job) (status : JobStatus) (c : Controller MemoryStore) :
    SeatsKept job c (requested (ObjectStore.updateJobStatus job' status) c) :=
  .of_pods_eq ((effect_updateJobStatus job' status c.store).pods_eq (pods_recorded _ _ _))

/-- A pass that brings a job in line creates pods in empty seats only. -/
theorem seatsKept_advance {pods : List Pod} {services : List Service} {status : JobStatus} :
    Keeps (SeatsKept job) (advance now job pods services status) := by
  refine keeps_advance (seatsKept_frame job) (fun e he => ⟨?_, ?_⟩) fun _ => seatsKept_updateJobStatus _ _
  · exact keeps_reconcilePods (seatsKept_frame job) (fun _ _ _ => id) (fun _ _ _ => id)
      (fun _ _ => seatsKept_deletePod _) fun index hindex template owner c _ _ =>
        seatsKept_createPod he (lt_of_mem_missing hindex) c.config template owner c
  · exact keeps_reconcileServices (seatsKept_frame job) (fun _ _ _ => id) (fun _ _ _ => id)
      fun _ _ _ _ c _ _ => .of_pods_eq ((effect_createService _ _ c.store).pods_eq rfl)

/-- And one that ends the job creates none. -/
theorem seatsKept_terminate {pods : List Pod} {status : JobStatus} {failure : Option String} :
    Keeps (SeatsKept job) (terminate now job pods status failure) :=
  keeps_terminate (seatsKept_frame job) (fun _ _ => seatsKept_deletePod _)
    (fun _ _ c => .of_pods_eq ((effect_deleteService _ c.store).pods_eq rfl)) (fun _ => id)
    (fun c => .of_pods_eq ((effect_deletePodGroup _ c.store).pods_eq rfl))
    (fun c => .of_pods_eq ((effect_deleteJob _ c.store).pods_eq rfl))
    (seatsKept_updateJobStatus _ _) fun _ _ => id

/-- A pass over an acceptable job keeps the pods of the store seated. -/
theorem seatsKept_sync {key : String} {stored : Job} (now : Timestamp)
    (hkey : splitKey? key = some (a.ns, a.name)) (hstored : c.store.jobs.get? a = some stored)
    (hvalid : stored.withDefaults.spec.fault? = none) :
    SeatsKept stored.withDefaults c ((sync now key).run c).2 := by
  have h : Yields (sync now key) c (fun _ c' => SeatsKept stored.withDefaults c c')
      fun _ c' => SeatsKept stored.withDefaults c c' := by
    have hkept : ∀ c₁ c', SameSurroundings c c₁ → SeatsKept stored.withDefaults c₁ c' →
        SeatsKept stored.withDefaults c c' := fun _ _ h₁ => (seatsKept_frame _).trans (.of_pods_eq h₁.pods)
    refine yields_sync_of_ways hkey hstored hvalid (fun _ _ _ => id) (fun _ _ _ => id)
      (fun c₁ failure h₁ _ _ => ?_) fun c₁ h₁ _ _ _ => ?_
    · exact (seatsKept_terminate c₁).mono (fun _ c' => hkept c₁ c' h₁) fun _ c' => hkept c₁ c' h₁
    · exact (seatsKept_advance c₁).mono (fun _ c' => hkept c₁ c' h₁) fun _ c' => hkept c₁ c' h₁
  exact h.run

end Controller

/-! ## How many pods there are -/

namespace Job

variable {job : Job} {s : MemoryStore}

/-- There are no more pods in the store than the job has slots. -/
theorem Seated.length_podsIn_le (h : job.Seated s) : (job.podsIn s).length ≤ job.slotAddresses.length := by
  -- The pods stand at different addresses, all of them slots, and the job's own are some of them.
  have hkeys : s.pods.keys.length ≤ job.slotAddresses.length := by
    refine (Dict.nodup_keys s.pods).length_le_of_subset fun b hb => ?_
    obtain ⟨⟨b', pod⟩, hpod, rfl⟩ := List.mem_map.1 hb
    exact (h b' pod (Dict.get?_eq_some_iff.2 hpod)).2
  refine Nat.le_trans ?_ hkeys
  unfold podsIn MemoryStore.select Dict.filter Dict.values Dict.keys
  rw [List.length_map, List.length_map]
  exact List.length_filter_le _ _

/-- A job that asks for no negative number of replicas has as many slots as replicas. -/
theorem length_slotAddresses (h : ∀ e ∈ job.spec.replicaSpecs.entries, 0 ≤ e.2.count) :
    (job.slotAddresses.length : Int) = job.spec.demand := by
  unfold slotAddresses JobSpec.demand Dict.values
  generalize job.spec.replicaSpecs.entries = entries at h
  -- A negative number of replicas would count as no slot, but lower the sum.
  induction entries with
  | nil => rfl
  | cons e rest ih =>
    have hslots : (e.2.slotCount : Int) = e.2.count := by
      have hcount : 0 ≤ (e.2.count : Int) := Int32.le_iff_toInt_le.1 (h e List.mem_cons_self)
      rw [ReplicaSpec.natCast_slotCount, Int.max_eq_right hcount]
    rw [List.flatMap_cons, List.length_append, List.length_map, List.length_range, Int.natCast_add, hslots,
      ih fun e' he' => h e' (List.mem_cons_of_mem _ he')]
    rfl

/-- A pod that a plan replaces is one of the replica type among the pods that were looked at, and has failed. -/
theorem exists_of_mem_restarts {replicaType : String} {spec : ReplicaSpec} {pods : List Pod} {name : String}
    (h : name ∈ (Controller.podPlan replicaType spec pods).restarts) :
    ∃ pod ∈ ofReplicaType replicaType pods, nameOf pod = name ∧ pod.phase? = some "Failed" := by
  have hrestarts : (Controller.podPlan replicaType spec pods).restarts = if spec.restart = .exitCode then
    ((Controller.podPlan replicaType spec pods).seated.filter Pod.needsReplacement).map nameOf else [] := rfl
  rw [hrestarts] at h
  split at h
  · obtain ⟨pod, hpod, hname⟩ := List.mem_map.1 h
    obtain ⟨hseated, hfailed⟩ := List.mem_filter.1 hpod
    -- A pod in a slot is one of the pods that were sorted into the slots.
    obtain ⟨slot, hslot, hhead⟩ := List.mem_filterMap.1 hseated
    rw [slotsOf, slots_eq] at hslot
    obtain ⟨index, -, rfl⟩ := List.mem_map.1 hslot
    have hpods := (List.mem_filter.1 (List.mem_of_mem_head? hhead)).1
    exact ⟨pod, hpods, hname, beq_iff_eq.1 (Bool.and_eq_true_iff.1 hfailed).1⟩
  · exact absurd h List.not_mem_nil

/-- As long as a failed pod of a job is to be replaced, fewer pods are active than it asks for. -/
theorem Seated.active_lt_demand (hseated : job.Seated s)
    (hcounts : ∀ e ∈ job.spec.replicaSpecs.entries, 0 ≤ e.2.count)
    (hrestarts : ∃ e ∈ job.spec.replicaSpecs.entries,
      (Controller.podPlan e.1 e.2 (job.podsIn s)).restarts ≠ []) :
    ((job.podsIn s).countP Pod.isActive : Int) < job.spec.demand := by
  obtain ⟨e, -, hrestarts⟩ := hrestarts
  obtain ⟨name, hname⟩ := List.exists_mem_of_ne_nil _ hrestarts
  obtain ⟨pod, hpod, -, hfailed⟩ := exists_of_mem_restarts hname
  have hinactive : pod.isActive = false := by
    unfold Pod.isActive
    rw [hfailed, bne_self_eq_false, Bool.and_false]
  -- The failed pod is there and does not count as active.
  have hfewer : (job.podsIn s).countP Pod.isActive < (job.podsIn s).length := by
    rw [List.countP_eq_length_filter, List.length_filter_lt_length_iff_exists]
    exact ⟨pod, (List.mem_filter.1 hpod).1, by rw [hinactive]; exact Bool.false_ne_true⟩
  have hlength := hseated.length_podsIn_le
  rw [← length_slotAddresses hcounts]
  omega

/-- So the number of active pods is not taken for that of all replicas. What an acceptable job asks for may be one
too many to be counted, and is then a negative number, which no number of pods is. -/
theorem Seated.active_ne_total (hvalid : job.spec.fault? = none) (hseated : job.Seated s)
    (hcounts : ∀ e ∈ job.spec.replicaSpecs.entries, 0 ≤ e.2.count)
    (hrestarts : ∃ e ∈ job.spec.replicaSpecs.entries,
      (Controller.podPlan e.1 e.2 (job.podsIn s)).restarts ≠ []) :
    Int32.ofNat ((job.podsIn s).countP Pod.isActive) ≠ job.totalReplicas := by
  have hfewer := hseated.active_lt_demand hcounts hrestarts
  have hmost := JobSpec.demand_le hvalid
  unfold totalReplicas
  rw [JobSpec.totalReplicas_eq_ofInt, ← Int32.ofInt_eq_ofNat, ne_eq, ofInt_eq_ofInt_iff]
  omega

end Job

end TrainingJobs
