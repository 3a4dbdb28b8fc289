/-
What is made for a slot is recognised for what it is.

A job writes its name, the replica type and the index on everything it makes, as labels and as a name, and
itself as the owner; all that is done later with a pod or a service goes by these marks (`Metadata.MadeFor`).
So the two sides have to agree: the marks that are written are those that are read, whatever the template of
the user says under the same labels. `made_is_recognised` says so of every pod and service that a stored job
makes: the job lists it, it is sorted into the slot that it was made for and into no other, and when the
watch reports it, exactly the record is lowered under which it was asked for.
-/
import Mathlib.Algebra.Group.Int.Defs
import TrainingJobs.Controller.Observation
import TrainingJobs.Proofs.Names
import TrainingJobs.Proofs.Outstanding
import TrainingJobs.Proofs.Serviceable

set_option autoImplicit false

namespace TrainingJobs

/-! ## Labels -/

namespace Labels

/-- What a selector asks for is there. -/
theorem selectedBy_iff {labels selector : Labels} :
    labels.selectedBy selector = true ↔ ∀ k v, selector.get? k = some v → labels.get? k = some v := by
  unfold selectedBy
  rw [List.all_eq_true]
  constructor
  · intro h k v hv
    exact beq_iff_eq.1 (h (k, v) (Dict.get?_eq_some_iff.1 hv))
  · intro h e he
    exact beq_iff_eq.2 (h e.1 e.2 (Dict.get?_eq_some_iff.2 he))

/-- To select is to contain, and so transitive. -/
theorem selectedBy_trans {labels middle selector : Labels} (h : labels.selectedBy middle = true)
    (h' : middle.selectedBy selector = true) : labels.selectedBy selector = true := by
  rw [selectedBy_iff] at *
  exact fun k v hv => h k v (h' k v hv)

/-- The labels of a job, looked up one by one. -/
theorem get?_ofJob (group jobName k : String) :
    (ofJob group jobName).get? k =
      if k = Label.jobName then some (dashed jobName) else if k = Label.group then some group else none := by
  unfold ofJob ofGroup
  simp only [Dict.get?_insert, Std.LawfulEqCmp.compare_eq_iff_eq, Dict.get?_empty]

/-- The labels of a slot are those of the job and two more. -/
theorem get?_ofSlot (group jobName replicaType k : String) (index : Nat) :
    (ofSlot group jobName replicaType index).get? k =
      if k = Label.replicaIndex then some (toString index)
      else if k = Label.replicaType then some (Text.lowercase replicaType)
      else (ofJob group jobName).get? k := by
  unfold ofSlot
  simp only [Dict.get?_insert, Std.LawfulEqCmp.compare_eq_iff_eq]

/-- What belongs to a slot of a job belongs to the job. -/
theorem ofSlot_selectedBy_ofJob (group jobName replicaType : String) (index : Nat) :
    (ofSlot group jobName replicaType index).selectedBy (ofJob group jobName) = true := by
  rw [selectedBy_iff]
  intro k v hv
  -- The labels of a slot that those of a job have not are under other keys.
  have hother : k ≠ Label.replicaIndex ∧ k ≠ Label.replicaType := by
    constructor
    all_goals
      rintro rfl
      rw [get?_ofJob] at hv
      exact absurd hv (by simp [Label.replicaIndex, Label.replicaType, Label.jobName, Label.group])
  rw [get?_ofSlot, if_neg hother.1, if_neg hother.2]
  exact hv

end Labels

/-! ## The marks -/

/-- What a job writes on what it makes for one of its slots. -/
structure Metadata.MadeFor (ns jobName replicaType : String) (index : Nat) (m : Metadata) : Prop where
  name : m.anyName = slotName jobName replicaType index
  place : m.ns = some ns
  /-- The labels of the slot are there, whatever other labels there are. -/
  labels : Labels.selectedBy m.labelsOrEmpty (Labels.ofSlot Job.group jobName replicaType index) = true
  owner : ∃ owner, controllerOf m.owners = some owner ∧ owner.name = jobName
  staying : m.deletionTimestamp = none

/-- Nothing has changed by which an object is recognised. -/
structure Metadata.SameMarks (m m' : Metadata) : Prop where
  name : m'.anyName = m.anyName
  place : m'.ns = m.ns
  labels : m'.labels = m.labels
  owners : m'.ownerReferences = m.ownerReferences
  staying : m'.deletionTimestamp = m.deletionTimestamp

namespace Metadata

variable {ns jobName replicaType : String} {index : Nat} {m m' : Metadata}

/-- An object is made for a slot by its marks alone. -/
theorem MadeFor.of_sameMarks (h : m.MadeFor ns jobName replicaType index) (hm : m.SameMarks m') :
    m'.MadeFor ns jobName replicaType index where
  name := hm.name.trans h.name
  place := hm.place.trans h.place
  labels := by
    unfold labelsOrEmpty
    rw [hm.labels]
    exact h.labels
  owner := by
    unfold owners
    rw [hm.owners]
    exact h.owner
  staying := hm.staying.trans h.staying

/-- What was made for a slot has the labels of the slot, whatever others it has. -/
theorem MadeFor.label (h : m.MadeFor ns jobName replicaType index) {k v : String}
    (hv : (Labels.ofSlot Job.group jobName replicaType index).get? k = some v) : m.label? k = some v :=
  Labels.selectedBy_iff.1 h.labels k v hv

/-- So it has its replica type in lower case as a label. -/
theorem MadeFor.label_replicaType (h : m.MadeFor ns jobName replicaType index) :
    m.label? Label.replicaType = some (Text.lowercase replicaType) := by
  refine h.label ?_
  rw [Labels.get?_ofSlot, if_neg (by decide), if_pos rfl]

/-- It has its index in digits. -/
theorem MadeFor.label_replicaIndex (h : m.MadeFor ns jobName replicaType index) :
    m.label? Label.replicaIndex = some (toString index) := by
  refine h.label ?_
  rw [Labels.get?_ofSlot, if_pos rfl]

/-- And it has the name of the job, without slashes. -/
theorem MadeFor.label_jobName (h : m.MadeFor ns jobName replicaType index) :
    m.label? Label.jobName = some (dashed jobName) := by
  refine h.label ?_
  rw [Labels.get?_ofSlot, if_neg (by decide), if_neg (by decide), Labels.get?_ofJob, if_pos rfl]

/-- The job lists what it has made. -/
theorem MadeFor.selected (h : m.MadeFor ns jobName replicaType index) :
    Labels.selectedBy m.labelsOrEmpty (Labels.ofJob Job.group jobName) = true :=
  Labels.selectedBy_trans h.labels (Labels.ofSlot_selectedBy_ofJob _ _ _ _)

end Metadata

/-- A stored write leaves the marks as they are. -/
theorem MemoryStore.sameMarks_stamped (version : Nat) (clock : Timestamp) (m : Metadata) :
    m.SameMarks (stamped version clock m) := by
  unfold stamped
  cases m.uid with
  | none => exact ⟨rfl, rfl, rfl, rfl, rfl⟩
  | some uid => exact ⟨rfl, rfl, rfl, rfl, rfl⟩

namespace Job

variable {job : Job} {owner : OwnerReference}

/-- A job with an identity is found as the controller of what it owns. -/
theorem controllerOf_ownerReference (h : job.ownerReference = .ok owner) :
    controllerOf [owner] = some owner ∧ owner.name = job.name := by
  unfold ownerReference at h
  split at h
  · exact absurd h (by simp)
  · rw [Except.ok.injEq] at h
    subst h
    exact ⟨rfl, rfl⟩

/-- The pod of a slot has the labels of the slot, whatever labels the template has. -/
theorem selectedBy_podFor (job : Job) (config : Config) (replicaType : String) (index : Nat)
    (restart : RestartPolicy) (template : PodTemplate) (owner : OwnerReference) :
    Labels.selectedBy
      (job.podFor config replicaType index restart template owner).metadata.labelsOrEmpty
      (Labels.ofSlot group job.name replicaType index) = true := by
  have hslot : (job.podLabels replicaType index).selectedBy
      (Labels.ofSlot group job.name replicaType index) = true := by
    rw [Labels.selectedBy_iff]
    intro k v hv
    unfold podLabels
    simp only
    split
    · -- The label of a master is under a key of its own.
      have hrole : k ≠ Label.role := by
        rintro rfl
        rw [Labels.get?_ofSlot, Labels.get?_ofJob] at hv
        exact absurd hv (by simp [Label.role, Label.replicaIndex, Label.replicaType, Label.jobName, Label.group])
      rw [Dict.get?_insert_ne _ _ hrole]
      exact hv
    · exact hv
  refine Labels.selectedBy_trans ?_ hslot
  -- The labels of the slot are put in last, so they win over those of the template.
  rw [Labels.selectedBy_iff]
  intro k v hv
  change (Dict.insertAll _ (job.podLabels replicaType index).entries).get? k = some v
  rw [Dict.get?_insertAll, hv, Option.some_or]

/-- The pod of a slot has its marks, whatever labels the template has. -/
theorem madeFor_podFor (h : job.ownerReference = .ok owner) (config : Config) (replicaType : String)
    (index : Nat) (restart : RestartPolicy) (template : PodTemplate) :
    (job.podFor config replicaType index restart template owner).metadata.MadeFor
      job.ns job.name replicaType index :=
  ⟨rfl, rfl, selectedBy_podFor job config replicaType index restart template owner,
    ⟨owner, controllerOf_ownerReference h⟩, rfl⟩

/-- The service of a slot is made for it. -/
theorem madeFor_serviceFor (h : job.ownerReference = .ok owner) (replicaType : String) (index : Nat)
    (port : Int) : (job.serviceFor replicaType index port owner).metadata.MadeFor
      job.ns job.name replicaType index :=
  ⟨rfl, rfl, Labels.selectedBy_iff.2 fun _ _ => id, ⟨owner, controllerOf_ownerReference h⟩, rfl⟩

/-- The replica types of an acceptable job are the two that there are. -/
theorem isReplicaType_of_acceptable {s : JobSpec} (h : s.fault? = none) {e : String × ReplicaSpec}
    (he : e ∈ s.replicaSpecs.entries) : IsReplicaType e.1 :=
  (ReplicaSpec.of_fault?_eq_none ((JobSpec.of_fault?_eq_none h).1 e he)).1

end Job

/-! ## Reading the marks -/

namespace Controller

section Reading

variable {α : Type} [HasMetadata α] {object : α} {ns jobName replicaType : String} {index : Nat}

/-- What is made for a slot of one type is not taken for that of another. -/
theorem ofReplicaType_made (h : (HasMetadata.metadata object).MadeFor ns jobName replicaType index)
    (ht : IsReplicaType replicaType) {other : String} (hother : IsReplicaType other) :
    ofReplicaType other [object] = if other = replicaType then [object] else [] := by
  unfold ofReplicaType labelOf?
  rw [List.filter_cons, h.label_replicaType, List.filter_nil]
  by_cases heq : other = replicaType
  · rw [heq, if_pos (beq_self_eq_true _), if_pos rfl]
  · have hne : ¬ (some (Text.lowercase replicaType) == some (Text.lowercase other)) = true := by
      rw [beq_iff_eq, Option.some.injEq]
      exact fun hlower => heq (lowercase_inj ht hother hlower).symm
    rw [if_neg hne, if_neg heq]

/-- What is made for a slot reads as its index. -/
theorem slotIndex?_made (h : (HasMetadata.metadata object).MadeFor ns jobName replicaType index)
    (hindex : index < 2 ^ 64) : slotIndex? object = some index := by
  unfold slotIndex? labelOf?
  rw [h.label_replicaIndex, Option.bind_some, Text.readWord?_toString hindex]

/-- What is made for a slot is placed there. -/
theorem slots_made (h : (HasMetadata.metadata object).MadeFor ns jobName replicaType index)
    (hindex : index < 2 ^ 64) (count : Nat) :
    slots count [object] = (List.range count).map fun i => if i = index then [object] else [] := by
  rw [slots_eq]
  refine List.map_congr_left fun i _ => ?_
  rw [List.filter_cons, slotIndex?_made h hindex, List.filter_nil]
  by_cases hi : i = index
  · rw [hi, if_pos (beq_self_eq_true _), if_pos rfl]
  · rw [if_neg (by simpa using fun h => hi h.symm), if_neg hi]

/-- What is made for a slot is expected under the key of its job and its replica type. -/
theorem expectationKey?_made (h : (HasMetadata.metadata object).MadeFor ns jobName replicaType index)
    (ht : IsReplicaType replicaType) (kind : Controllee) :
    expectationKey? kind object = some (.of (keyFor ns jobName) replicaType kind) := by
  obtain ⟨owner, howner, hname⟩ := h.owner
  unfold expectationKey?
  simp only [howner, h.label_replicaType, Option.bind_eq_bind, Option.bind_some, h.place, Option.getD_some, hname]
  unfold ExpectationKey.of
  rw [ht.lowercase.2.2]

variable {σ : Type}

/-- When it appears there is one creation less to be seen. -/
theorem observeCreation_made (h : (HasMetadata.metadata object).MadeFor ns jobName replicaType index)
    (ht : IsReplicaType replicaType) (kind : Controllee) (c : Controller σ) :
    c.observeCreation kind object =
      expected (fun x => x.creationObserved (.of (keyFor ns jobName) replicaType kind)) c := by
  unfold observeCreation
  rw [expectationKey?_made h ht]
  rfl

/-- When it vanishes there is one deletion less to be seen. -/
theorem observeDeletion_made (h : (HasMetadata.metadata object).MadeFor ns jobName replicaType index)
    (ht : IsReplicaType replicaType) (kind : Controllee) (c : Controller σ) :
    c.observeDeletion kind object =
      expected (fun x => x.deletionObserved (.of (keyFor ns jobName) replicaType kind)) c := by
  unfold observeDeletion
  rw [expectationKey?_made h ht]
  rfl

end Reading

end Controller

/-! ## The two sides -/

/-- Under one key so much less is outstanding, and nothing has changed under any other. -/
structure Expectations.Lowered (key : ExpectationKey) (adds dels : Int) (e e' : Expectations) : Prop where
  timeout : e'.timeout = e.timeout
  here : e'.records.get? key = (e.records.get? key).map fun r => { r with adds := r.adds - adds, dels := r.dels - dels }
  elsewhere : ∀ other, other ≠ key → e'.records.get? other = e.records.get? other

/-- To lower a record lowers it by just so much, and no other. -/
theorem Expectations.lowered_lower (e : Expectations) (key : ExpectationKey) (adds dels : Int) :
    e.Lowered key adds dels (e.lower key adds dels) where
  timeout := rfl
  here := Dict.get?_modify_self _ _ _
  elsewhere _ hne := Dict.get?_modify_ne _ _ hne

namespace Controller

/-- An object is recognised as what the job has made for a slot, by whoever lists it and by the handlers that
are told when it appears and when it vanishes. -/
structure Recognised {σ α : Type} [HasMetadata α] (job : Job) (replicaType : String) (count index : Nat)
    (kind : Controllee) (object : α) (appeared vanished : Controller σ → Controller σ) : Prop where
  /-- The job lists it, in its namespace and by its labels. -/
  listed : addressOf object = ⟨job.ns, slotName job.name replicaType index⟩ ∧
    Labels.selectedBy (HasMetadata.metadata object).labelsOrEmpty (Labels.ofJob Job.group job.name) = true
  /-- It is kept for its own replica type and for no other of the job. -/
  sorted : ∀ other ∈ job.spec.replicaSpecs.keys,
    ofReplicaType other [object] = if other = replicaType then [object] else []
  placed : slots count [object] = (List.range count).map fun i => if i = index then [object] else []
  /-- Its appearance is one creation less to be seen, under the key where creations of the type are announced. -/
  appears : ∀ c, c.expectations.Lowered (.of job.key replicaType kind) 1 0 (appeared c).expectations ∧
    appeared c = { c with expectations := (appeared c).expectations }
  vanishes : ∀ c, c.expectations.Lowered (.of job.key replicaType kind) 0 1 (vanished c).expectations ∧
    vanished c = { c with expectations := (vanished c).expectations }

variable {σ α : Type} [HasMetadata α]

/-- Whatever has the marks of a slot of an acceptable job is recognised by them. -/
theorem Recognised.of_madeFor {job : Job} {replicaType : String} {index : Nat} {object : α}
    (hvalid : job.spec.fault? = none) (ht : replicaType ∈ job.spec.replicaSpecs.keys) (hindex : index < 2 ^ 64)
    (h : (HasMetadata.metadata object).MadeFor job.ns job.name replicaType index) (count : Nat)
    (kind : Controllee) : Recognised (σ := σ) job replicaType count index kind object
      (fun c => c.observeCreation kind object) fun c => c.observeDeletion kind object := by
  -- Recognition by type compares lowercased names, which tells replica types apart and no others.
  have htypes : ∀ other ∈ job.spec.replicaSpecs.keys, IsReplicaType other := by
    intro other hother
    obtain ⟨e, he, rfl⟩ := List.mem_map.1 hother
    exact Job.isReplicaType_of_acceptable hvalid he
  refine ⟨⟨?_, h.selected⟩, fun other hother => ofReplicaType_made h (htypes _ ht) (htypes _ hother),
    slots_made h hindex count, fun c => ?_, fun c => ?_⟩
  · unfold addressOf Metadata.address
    rw [h.place, h.name]
    rfl
  · rw [observeCreation_made h (htypes _ ht)]
    exact ⟨Expectations.lowered_lower _ _ _ _, rfl⟩
  · rw [observeDeletion_made h (htypes _ ht)]
    exact ⟨Expectations.lowered_lower _ _ _ _, rfl⟩

/-- **Every pod and service that a stored job makes for a slot is recognised as what it is**: by the listing of
the job, by the sorting into slots, and by the handlers of the watch. Its template may say what it likes, and
it may have been stored and reported on since, as long as the marks are still those it was made with. -/
theorem made_is_recognised {stored : Job} {e : String × ReplicaSpec} {index : Nat}
    (hvalid : stored.withDefaults.spec.fault? = none) (huid : stored.metadata.uid.isSome = true)
    (he : e ∈ stored.withDefaults.spec.replicaSpecs.entries) (hindex : index < e.2.slotCount) :
    ∃ owner template port, stored.withDefaults.ownerReference = .ok owner ∧
      stored.withDefaults.slotTemplate e.2.template (Text.lowercase e.1) index = .ok template ∧
      e.2.meetingPort = .ok port ∧
      (∀ (config : Config) (pod : Pod),
        (stored.withDefaults.podFor config e.1 index e.2.restart template owner).metadata.SameMarks
            pod.metadata →
          Recognised (σ := σ) stored.withDefaults e.1 e.2.slotCount index .pods pod
            (podAdded pod) (podDeleted pod)) ∧
      ∀ service : Service,
        (stored.withDefaults.serviceFor e.1 index port owner).metadata.SameMarks service.metadata →
          Recognised (σ := σ) stored.withDefaults e.1 e.2.slotCount index .services service
            (serviceAdded service) (serviceDeleted service) := by
  have hjob := Job.serviceable_withDefaults hvalid huid
  obtain ⟨owner, howner⟩ := hjob.owner
  obtain ⟨template, htemplate⟩ := hjob.template e he index hindex
  obtain ⟨port, hport⟩ := hjob.port e he
  have htype : e.1 ∈ stored.withDefaults.spec.replicaSpecs.keys := List.mem_map.2 ⟨e, he, rfl⟩
  -- An index of a slot can be written in 31 bits, so its numeral reads back.
  have hword : index < 2 ^ 64 := by
    have hslots := e.2.slotCount_lt
    omega
  refine ⟨owner, template, port, howner, htemplate, hport, fun config pod hmarks => ?_, fun service hmarks => ?_⟩
  · have hmade := (Job.madeFor_podFor howner config e.1 index e.2.restart template).of_sameMarks hmarks
    have hrecognised := Recognised.of_madeFor (σ := σ) (α := Pod) hvalid htype hword hmade e.2.slotCount .pods
    -- A pod that is not leaving counts as appeared.
    have hadded : ∀ c : Controller σ, c.observeCreation .pods pod = c.podAdded pod := by
      intro c
      unfold podAdded Pod.isLeaving
      rw [hmade.staying]
      rfl
    simp only [hadded] at hrecognised
    exact hrecognised
  · have hmade := (Job.madeFor_serviceFor howner e.1 index port).of_sameMarks hmarks
    exact Recognised.of_madeFor (α := Service) hvalid htype hword hmade e.2.slotCount .services

/-- Workers whose template uses the labels of the operator for something else. -/
def mislabelled : ReplicaSpec :=
  { sampleType 3 .exitCode with
    template := {
      metadata := some {
        labels := some (.ofList [(Label.jobName, "other"), (Label.replicaIndex, "0"), (Label.role, "master")]) }
      spec := some { containers := [sampleContainer] } } }

def mislabelledJob : Job :=
  let job := sampleJob {} [(masterType, sampleType 1 .never), ("worker", mislabelled)] none
  { job with metadata := { job.metadata with uid := some "uid-1" } }

/-- Its last worker is recognised all the same. -/
theorem mislabelled_is_recognised :
    (workerType, mislabelled.withDefaults) ∈ mislabelledJob.withDefaults.spec.replicaSpecs.entries ∧
      ∃ owner template, mislabelledJob.withDefaults.ownerReference = .ok owner ∧
        ∀ config, Recognised (σ := MemoryStore) mislabelledJob.withDefaults workerType 3 2 .pods
          (mislabelledJob.withDefaults.podFor config workerType 2 .exitCode template owner)
          (podAdded (mislabelledJob.withDefaults.podFor config workerType 2 .exitCode template owner))
          (podDeleted (mislabelledJob.withDefaults.podFor config workerType 2 .exitCode template owner)) := by
  have hvalid : mislabelledJob.withDefaults.spec.fault? = none := by decide +kernel
  have huid : mislabelledJob.metadata.uid.isSome = true := rfl
  have he : (workerType, mislabelled.withDefaults) ∈ mislabelledJob.withDefaults.spec.replicaSpecs.entries := by
    decide +kernel
  have hindex : 2 < mislabelled.withDefaults.slotCount := by decide
  obtain ⟨owner, template, port, howner, -, -, hpods, -⟩ :=
    made_is_recognised (σ := MemoryStore) hvalid huid he hindex
  exact ⟨he, owner, template, howner, fun config => hpods config _ ⟨rfl, rfl, rfl, rfl, rfl⟩⟩

end Controller

end TrainingJobs
