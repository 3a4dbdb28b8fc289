/-
A pass completes a job, and the next one has nothing to add.

A pass that gets to look at the slots of a job fills those that are empty, one pod and one service each, and
leaves alone what is there (`Job.Completed`). Until the watch reports what was made, the records of the pass
keep the next one away; every report takes one from the record under which the object was announced, so when
all have come in, in whichever order, nothing is outstanding any more. The next pass finds all slots taken and
creates nothing. `converges_without_duplicates` puts the two passes together.
-/
import TrainingJobs.Proofs.RestartBudget
import TrainingJobs.Proofs.Supply

set_option autoImplicit false

namespace TrainingJobs

open Controller

/-! ## The first pass -/

namespace Job

variable {α : Type} [HasMetadata α] {job : Job} {objects objects' : Dict Address α}

/-- Every slot has its one object. What was there is as it was, and what is new was made for a slot and stands at
its address. -/
structure Completed (job : Job) (objects objects' : Dict Address α) : Prop where
  kept : ∀ x o, objects.get? x = some o → objects'.get? x = some o
  new : ∀ x o, objects.get? x = none → objects'.get? x = some o →
    ∃ e ∈ job.spec.replicaSpecs.entries, ∃ index < e.2.slotCount, x = job.slotAddress (e.1, index) ∧
      (HasMetadata.metadata o).MadeFor job.ns job.name e.1 index
  full : ∀ e ∈ job.spec.replicaSpecs.entries,
    ∀ slot ∈ slotsOf e.1 e.2.slotCount (job.listed objects'), slot.length = 1

/-- What was supplied to arranged objects is arranged, too. -/
theorem Arranged.of_supplied (h : job.Arranged objects) {slots : List (String × Nat)}
    (hslots : ∀ s ∈ slots, ∃ e ∈ job.spec.replicaSpecs.entries, s.1 = e.1 ∧ s.2 < e.2.slotCount)
    (hsupplied : job.Supplied slots objects objects') : job.Arranged objects' where
  own x o ho hns hlabels := by
    -- An object at a slot just filled was made for it; any other was there before.
    by_cases hx : x ∈ slots.map job.slotAddress
    · obtain ⟨s, hs, rfl⟩ := List.mem_map.1 hx
      obtain ⟨o', ho', hmade⟩ := hsupplied.made s hs
      obtain ⟨e, he, htype, hindex⟩ := hslots s hs
      rw [ho, Option.some.injEq] at ho'
      subst ho'
      exact ⟨e, he, s.2, hindex, by rw [← htype], htype ▸ hmade.labels⟩
    · rw [hsupplied.kept x hx] at ho
      exact h.own x o ho hns hlabels
  free e he index hindex o ho := by
    by_cases hx : job.slotAddress (e.1, index) ∈ slots.map job.slotAddress
    · obtain ⟨s, hs, heq⟩ := List.mem_map.1 hx
      obtain ⟨o', ho', hmade⟩ := hsupplied.made s hs
      rw [heq, ho, Option.some.injEq] at ho'
      subst ho'
      exact hmade.selected
    · rw [hsupplied.kept _ hx] at ho
      exact h.free e he index hindex o ho

section Completed

variable (hjob : Slashless job.name) (hvalid : job.spec.fault? = none)

/-- A vacancy is a slot of one of the types. -/
theorem mem_vacancies_listed {s : String × Nat}
    (hs : s ∈ vacancies (job.listed objects) job.spec.replicaSpecs.entries) :
    ∃ e ∈ job.spec.replicaSpecs.entries, s.1 = e.1 ∧ s.2 < e.2.slotCount := by
  obtain ⟨e, he, htype, hindex⟩ := mem_vacancies.1 hs
  have hlt := lt_of_mem_vacant hindex
  rw [length_slotsOf] at hlt
  exact ⟨e, he, htype, hlt⟩

include hjob hvalid

/-- The empty slots of arranged objects are at free addresses. -/
theorem Arranged.free_of_mem_vacancies (h : job.Arranged objects) :
    ∀ s ∈ vacancies (job.listed objects) job.spec.replicaSpecs.entries,
      objects.get? (job.slotAddress s) = none := by
  intro s hs
  obtain ⟨e, he, htype, hindex⟩ := mem_vacancies.1 hs
  have hfree := ((h.mem_vacant_iff hjob hvalid he).1 hindex).2
  rw [← htype] at hfree
  exact hfree

/-- Arranged objects that are supplied where they are missing are complete. -/
theorem Arranged.completed (h : job.Arranged objects)
    (hsupplied : job.Supplied (vacancies (job.listed objects) job.spec.replicaSpecs.entries) objects objects') :
    job.Completed objects objects' := by
  have hkept : ∀ x o, objects.get? x = some o → objects'.get? x = some o := by
    intro x o ho
    rw [hsupplied.kept x fun hx => ?_]
    · exact ho
    · obtain ⟨s, hs, rfl⟩ := List.mem_map.1 hx
      rw [hsupplied.free s hs] at ho
      exact absurd ho (by simp)
  have harranged : job.Arranged objects' := h.of_supplied (fun s => mem_vacancies_listed) hsupplied
  refine ⟨hkept, fun x o hnone ho => ?_, fun e he slot hslot => ?_⟩
  · by_cases hx : x ∈ (vacancies (job.listed objects) job.spec.replicaSpecs.entries).map job.slotAddress
    · obtain ⟨s, hs, rfl⟩ := List.mem_map.1 hx
      obtain ⟨o', ho', hmade⟩ := hsupplied.made s hs
      obtain ⟨e, he, htype, hindex⟩ := mem_vacancies_listed hs
      rw [ho, Option.some.injEq] at ho'
      subst ho'
      exact ⟨e, he, s.2, hindex, by rw [← htype], htype ▸ hmade⟩
    · rw [hsupplied.kept x hx, hnone] at ho
      exact absurd ho (by simp)
  · -- At the address of a slot there was something before, or it was empty and has been supplied.
    obtain ⟨index, hindex, hget⟩ := List.getElem_of_mem hslot
    have hlt : index < e.2.slotCount := by
      rwa [length_slotsOf] at hindex
    have hthere : ∃ o, objects'.get? (job.slotAddress (e.1, index)) = some o := by
      rcases hold : objects.get? (job.slotAddress (e.1, index)) with _ | o
      · have hvacant := (h.mem_vacant_iff hjob hvalid he).2 ⟨hlt, hold⟩
        obtain ⟨o, ho, -⟩ := hsupplied.made (e.1, index) (mem_vacancies.2 ⟨e, he, rfl, hvacant⟩)
        exact ⟨o, ho⟩
      · exact ⟨o, hkept _ o hold⟩
    obtain ⟨o, ho⟩ := hthere
    have hone := harranged.slot_eq hjob hvalid he hlt
    rw [List.getElem?_eq_getElem hindex, hget, ho, Option.some.injEq] at hone
    rw [hone]
    rfl

end Completed

/-- Where every slot has its object, no slot is empty. -/
theorem Completed.vacant_eq_nil (h : job.Completed objects objects') {e : String × ReplicaSpec}
    (he : e ∈ job.spec.replicaSpecs.entries) :
    vacant (slotsOf e.1 e.2.slotCount (job.listed objects')) = [] := by
  rw [List.eq_nil_iff_forall_not_mem]
  intro index hindex
  have hslot := mem_vacant.1 hindex
  have hone := h.full e he [] (List.mem_of_getElem? hslot)
  exact absurd hone (by simp)

end Job

namespace Controller

open MemoryStore

variable {a : Address} {key : String} {now later : Timestamp} {job stored : Job} {c c' : Controller MemoryStore}

/-- The pods, the services and what is expected of them are the same. -/
structure SameObjects (c c' : Controller MemoryStore) : Prop where
  pods : c'.store.pods = c.store.pods
  services : c'.store.services = c.store.services
  expectations : c'.expectations = c.expectations

/-- What the controller says and computes leaves pods and services alone. -/
theorem sameObjects_frame : Frame SameObjects where
  refl _ := ⟨rfl, rfl, rfl⟩
  trans h₁ h₂ := ⟨h₂.pods.trans h₁.pods, h₂.services.trans h₁.services, h₂.expectations.trans h₁.expectations⟩
  told _ _ := ⟨rfl, rfl, rfl⟩

/-- Writing a status leaves pods and services alone. -/
theorem sameObjects_updateJobStatus (status : JobStatus) (c : Controller MemoryStore) :
    SameObjects c (requested (ObjectStore.updateJobStatus job status) c) := by
  have hsame := (effect_updateJobStatus job status c.store).sameObjects (pods_recorded _ _ _)
    (services_recorded _ _ _) (failures_recorded _ _ _)
  exact ⟨hsame.pods, hsame.services, rfl⟩

/-- What a pass leaves that gets to look at the slots of a job: both kinds of objects are complete, and what was
made is announced. -/
structure Fills (now : Timestamp) (job : Job) (c c' : Controller MemoryStore) : Prop where
  pods : job.Supplied (vacancies (job.podsIn c.store) job.spec.replicaSpecs.entries) c.store.pods c'.store.pods
  services : job.Supplied (vacancies (job.servicesIn c.store) job.spec.replicaSpecs.entries)
    c.store.services c'.store.services
  announced : c.expectations.Announced now
    (job.announced (vacancies (job.podsIn c.store) job.spec.replicaSpecs.entries)
      (vacancies (job.servicesIn c.store) job.spec.replicaSpecs.entries)) c'.expectations

/-- What a step fills is the same from any state with the same surroundings. -/
theorem Fills.of_sameSurroundings {c₁ : Controller MemoryStore} (h : Fills now job c₁ c')
    (h₁ : SameSurroundings c c₁) : Fills now job c c' where
  pods := by
    rw [← h₁.podsIn_eq, ← h₁.pods]
    exact h.pods
  services := by
    rw [← h₁.servicesIn_eq, ← h₁.services]
    exact h.services
  announced := by
    rw [← h₁.podsIn_eq, ← h₁.servicesIn_eq, ← h₁.expectations]
    exact h.announced

/-- An arranged job with nothing outstanding and no failed pod has its empty slots filled when it is brought in
line. -/
theorem fills_advance (hserviceable : job.Serviceable) (hslash : Slashless job.name)
    (hvalid : job.spec.fault? = none)
    (hfailures : c.store.failures = []) (hpods : job.Arranged c.store.pods)
    (hservices : job.Arranged c.store.services)
    (hunfailed : ∀ pod ∈ job.podsIn c.store, pod.phase? ≠ some "Failed")
    (hsatisfied : ∀ e ∈ job.spec.replicaSpecs.entries, ∀ kind,
      c.expectations.satisfied (.of job.key e.1 kind) now = true) (status : JobStatus) :
    Yields (advance now job (job.podsIn c.store) (job.servicesIn c.store) status) c
      (fun _ c' => Fills now job c c') fun _ _ => True := by
  have hrestarts : ∀ e ∈ job.spec.replicaSpecs.entries,
      (podPlan e.1 e.2 (job.podsIn c.store)).restarts = [] := by
    intro e _
    rw [List.eq_nil_iff_forall_not_mem]
    intro name hname
    obtain ⟨pod, hpod, -, hfailed⟩ := Job.exists_of_mem_restarts hname
    exact hunfailed pod (List.mem_filter.1 hpod).1 hfailed
  have hsupplied := yields_reconcileReplicas_of_free now (job.podsIn c.store) (job.servicesIn c.store) hserviceable
    hslash hvalid job.spec.replicaSpecs.entries status c (fun _ => id) (lowercase_ne_of_acceptable hvalid)
    hfailures hsatisfied hrestarts (hpods.free_of_mem_vacancies hslash hvalid)
    (hservices.free_of_mem_vacancies hslash hvalid)
  change Yields (reconcileReplicas now job _ _ _ _ >>= fun counted => appraise now job counted.1 counted.2) c _ _
  rw [yields_bind]
  refine hsupplied.mono (fun counted c₁ h₁ => ?_) fun _ _ => False.elim
  obtain ⟨hsupplies, hannounced⟩ := h₁
  -- What is left to do is about the status alone.
  refine (keeps_appraise sameObjects_frame counted.2 (sameObjects_updateJobStatus _) c₁).mono
    (fun _ c₂ h₂ => ?_) fun _ _ _ => trivial
  exact ⟨h₂.pods ▸ hsupplies.pods, h₂.services ▸ hsupplies.services, h₂.expectations ▸ hannounced⟩

/-- **A pass that gets to look at the slots of an arranged job, none of whose pods has failed, fills the empty
slots and does nothing else to pods and services.** -/
theorem fills_sync (hkey : splitKey? key = some (a.ns, a.name)) (hstored : c.store.jobs.get? a = some stored)
    (haddress : stored.address = a) (hvalid : stored.withDefaults.spec.fault? = none)
    (huid : stored.metadata.uid.isSome = true)
    (hfailures : c.store.failures = []) (hpods : stored.withDefaults.Arranged c.store.pods)
    (hservices : stored.withDefaults.Arranged c.store.services)
    (hunfailed : ∀ pod ∈ stored.withDefaults.podsIn c.store, pod.phase? ≠ some "Failed")
    (hopen : (stored.withDefaults.takenIn now).isFinished = false)
    (hfree : ¬ stored.withDefaults.HeldUp now c)
    (hlimit : stored.withDefaults.exceeded? (stored.withDefaults.podsIn c.store)
      (c.retries.count stored.withDefaults.key) (stored.withDefaults.takenIn now) now = none) :
    Yields (sync now key) c (fun _ c' => Fills now stored.withDefaults c c') fun _ _ => False := by
  have hslash : Slashless stored.withDefaults.name := by
    subst haddress
    exact slashless_of_splitKey? hkey
  have hsatisfied : ∀ e ∈ stored.withDefaults.spec.replicaSpecs.entries, ∀ kind,
      c.expectations.satisfied (.of stored.withDefaults.key e.1 kind) now = true := by
    intro e he kind
    refine (Job.not_heldUp_iff.1 hfree).2 _ (List.mem_flatMap.2 ⟨e.1, List.mem_map.2 ⟨e, he, rfl⟩, ?_⟩)
    cases kind <;> simp
  have hlook : Yields (sync now key) c (fun _ c' => Fills now stored.withDefaults c c') fun _ _ => True := by
    refine yields_sync_of_within_limits hkey hstored hvalid hfree hopen hlimit (fun _ _ _ => trivial) fun c₁ h₁ => ?_
    -- Whether or not a pod group was made before, the slots are as they were.
    rw [← h₁.podsIn_eq] at hunfailed ⊢
    rw [← h₁.servicesIn_eq]
    refine (fills_advance (Job.serviceable_withDefaults hvalid huid) hslash hvalid
      (List.sublist_nil.1 (hfailures ▸ h₁.failures)) (h₁.pods ▸ hpods) (h₁.services ▸ hservices) hunfailed
      (h₁.expectations ▸ hsatisfied) _).mono (fun _ _ h => h.of_sameSurroundings h₁) fun _ _ => id
  exact ((succeeds_sync now hkey hstored haddress hvalid huid hfailures).and hlook).mono (fun _ _ h => h.2)
    fun _ _ h => h.1

end Controller

/-! ## What the watch reports -/

/-- An object appears, and is there to stay. -/
def Sighting.Appears : Sighting → Prop
  | .podAdded pod => pod.isLeaving = false
  | .serviceAdded _ => True
  | _ => False

/-- The key under which an object that appears is expected. -/
def Sighting.creationKey? : Sighting → Option ExpectationKey
  | .podAdded pod => expectationKey? .pods pod
  | .serviceAdded service => expectationKey? .services service
  | _ => none

/-- An appearance that is reported lowers what is expected, if it is that of an object which the controller made. -/
theorem take_of_appears {sighting : Sighting} (h : sighting.Appears) (c : Controller MemoryStore) :
    sighting.take c = match sighting.creationKey? with
      | some key => expected (fun x => x.creationObserved key) c
      | none => c := by
  cases sighting with
  | podAdded pod =>
    have hstays : pod.isLeaving = false := h
    change (if pod.isLeaving then _ else _ : Controller MemoryStore) = _
    rw [hstays, if_neg Bool.false_ne_true]
    rfl
  | serviceAdded service => rfl
  | podDeleted pod => exact h.elim
  | serviceDeleted service => exact h.elim
  | jobDeleted gone => exact h.elim

/-- What is expected stays as it is, apart from the one creation that an object that appears takes from the record
under which it is expected. -/
theorem expectations_take_of_appears {sighting : Sighting} (h : sighting.Appears) (c : Controller MemoryStore) :
    (sighting.take c).store = c.store ∧
      (sighting.take c).expectations.timeout = c.expectations.timeout ∧
      ∀ key, (sighting.take c).expectations.records.get? key =
        (c.expectations.records.get? key).map
          (·.lower (if sighting.creationKey? == some key then 1 else 0) 0) := by
  rw [take_of_appears h]
  rcases sighting.creationKey? with _ | observed
  · refine ⟨rfl, rfl, fun key => ?_⟩
    simp [Expectation.lower]
  · refine ⟨rfl, rfl, fun key => ?_⟩
    have hlowered := Expectations.lowered_lower c.expectations observed 1 0
    change (c.expectations.lower observed 1 0).records.get? key = _
    -- The key observed and the others, which nothing is taken off.
    by_cases hsame : key = observed
    · subst hsame
      rw [hlowered.here, beq_self_eq_true, if_pos rfl]
      rfl
    · rw [hlowered.elsewhere key hsame]
      simp [Expectation.lower, Ne.symm hsame]

/-- Objects that appear take one creation each from the records under which they are expected. -/
theorem foldl_take {sightings : List Sighting} (h : ∀ s ∈ sightings, s.Appears) (c : Controller MemoryStore) :
    (sightings.foldl Sighting.take c).store = c.store ∧
      (sightings.foldl Sighting.take c).expectations.timeout = c.expectations.timeout ∧
      ∀ key, (sightings.foldl Sighting.take c).expectations.records.get? key =
        (c.expectations.records.get? key).map
          (·.lower (sightings.countP fun s => s.creationKey? == some key : Nat) 0) := by
  induction sightings generalizing c with
  | nil =>
    refine ⟨rfl, rfl, fun key => ?_⟩
    simp [Expectation.lower]
  | cons s rest ih =>
    obtain ⟨hs, hrest⟩ := List.forall_mem_cons.1 h
    obtain ⟨hstore, htimeout, hrecords⟩ := ih hrest (s.take c)
    obtain ⟨hstore₁, htimeout₁, hrecords₁⟩ := expectations_take_of_appears hs c
    refine ⟨hstore.trans hstore₁, htimeout.trans htimeout₁, fun key => ?_⟩
    rw [List.foldl_cons, hrecords, hrecords₁, Option.map_map, List.countP_cons]
    -- What the first one takes and what the others take adds up.
    refine Option.map_congr fun record _ => ?_
    simp only [Function.comp, Expectation.lower, Expectation.mk.injEq, and_true]
    split <;> omega

/-- Of what has been supplied, as much is expected under a key as was announced under it. -/
theorem Job.Supplied.countP_new {α : Type} [HasMetadata α] {job : Job} {slots : List (String × Nat)}
    {objects objects' : Dict Address α} (h : job.Supplied slots objects objects')
    (htypes : ∀ s ∈ slots, IsReplicaType s.1) (kind : Controllee) (key : ExpectationKey) :
    (Rehearsal.missingFrom objects' objects).countP (fun o => expectationKey? kind o == some key) =
      slots.countP fun s => key == .of job.key s.1 kind := by
  -- Whether what stands at an address is expected under the key.
  have hcounted : ∀ {x o}, objects'.get? x = some o →
      ((objects'.get? x).any fun o => expectationKey? kind o == some key) =
        (expectationKey? kind o == some key) := by
    intro x o ho
    rw [ho]
    rfl
  have haddresses : (objects'.filter fun x _ => !objects.contains x).keys.Perm (slots.map job.slotAddress) := by
    refine (List.perm_ext_iff_of_nodup (Dict.nodup_keys _) h.distinct).2 fun x => ?_
    unfold Dict.keys
    rw [List.mem_map, List.mem_map]
    constructor
    · rintro ⟨⟨x, o⟩, hentry, rfl⟩
      obtain ⟨hentry, hnew⟩ := List.mem_filter.1 hentry
      by_cases hx : x ∈ slots.map job.slotAddress
      · exact List.mem_map.1 hx
      · have ho := Dict.get?_eq_some_iff.2 hentry
        rw [h.kept x hx] at ho
        simp [Dict.contains, ho] at hnew
    · rintro ⟨s, hs, rfl⟩
      obtain ⟨o, ho, -⟩ := h.made s hs
      refine ⟨(job.slotAddress s, o), List.mem_filter.2 ⟨Dict.get?_eq_some_iff.1 ho, ?_⟩, rfl⟩
      simp [Dict.contains, h.free s hs]
  calc (Rehearsal.missingFrom objects' objects).countP (fun o => expectationKey? kind o == some key)
      = (objects'.filter fun x _ => !objects.contains x).keys.countP
          (fun x => (objects'.get? x).any fun o => expectationKey? kind o == some key) := by
        unfold Rehearsal.missingFrom Dict.values Dict.keys
        rw [List.countP_map, List.countP_map]
        refine List.countP_congr fun e he => ?_
        simp only [Function.comp]
        rw [hcounted (Dict.get?_eq_some_iff.2 (List.mem_filter.1 he).1)]
    _ = (slots.map job.slotAddress).countP
          (fun x => (objects'.get? x).any fun o => expectationKey? kind o == some key) :=
        haddresses.countP_eq _
    _ = slots.countP fun s => key == .of job.key s.1 kind := by
        rw [List.countP_map]
        refine List.countP_congr fun s hs => ?_
        obtain ⟨o, ho, hmade⟩ := h.made s hs
        simp only [Function.comp]
        rw [hcounted ho, expectationKey?_made hmade (htypes s hs), beq_iff_eq, beq_iff_eq, Option.some.injEq]
        exact eq_comm

/-- What is new in a collection that was supplied was made for one of the slots. -/
theorem Job.Supplied.made_of_mem_new {α : Type} [HasMetadata α] {job : Job} {slots : List (String × Nat)}
    {objects objects' : Dict Address α} (h : job.Supplied slots objects objects') {o : α}
    (ho : o ∈ Rehearsal.missingFrom objects' objects) :
    ∃ s ∈ slots, (HasMetadata.metadata o).MadeFor job.ns job.name s.1 s.2 := by
  obtain ⟨⟨x, o⟩, hentry, rfl⟩ := List.mem_map.1 ho
  obtain ⟨hentry, hnew⟩ := List.mem_filter.1 hentry
  have hthere := Dict.get?_eq_some_iff.2 hentry
  -- An object outside the slots filled was there before, so it is not new.
  by_cases hx : x ∈ slots.map job.slotAddress
  · obtain ⟨s, hs, rfl⟩ := List.mem_map.1 hx
    obtain ⟨o', ho', hmade⟩ := h.made s hs
    rw [hthere, Option.some.injEq] at ho'
    exact ⟨s, hs, ho' ▸ hmade⟩
  · rw [h.kept x hx] at hthere
    simp [Dict.contains, hthere] at hnew

namespace Controller

open MemoryStore

variable {a : Address} {key : String} {now later : Timestamp} {job stored : Job} {c c' : Controller MemoryStore}

/-- Everything that was made has been reported, in whichever order. -/
def Reported (c c' : Controller MemoryStore) (sightings : List Sighting) : Prop :=
  sightings.Perm ((Rehearsal.missingFrom c'.store.pods c.store.pods).map .podAdded ++
    (Rehearsal.missingFrom c'.store.services c.store.services).map .serviceAdded)

section Reported

variable {sightings : List Sighting} (hvalid : job.spec.fault? = none) (hfills : Fills now job c c')
  (hreported : Reported c c' sightings)
include hfills hreported

/-- What is reported of what a pass has made are appearances, since nothing that was made is going. -/
theorem appears_of_reported {s : Sighting} (hs : s ∈ sightings) : s.Appears := by
  rcases List.mem_append.1 (hreported.mem_iff.1 hs) with hs | hs
  · obtain ⟨pod, hpod, rfl⟩ := List.mem_map.1 hs
    obtain ⟨_, _, hmade⟩ := hfills.pods.made_of_mem_new hpod
    change pod.metadata.deletionTimestamp.isSome = false
    rw [show pod.metadata.deletionTimestamp = none from hmade.staying]
    rfl
  · obtain ⟨service, -, rfl⟩ := List.mem_map.1 hs
    trivial

include hvalid

/-- The reports of what was made are those that were announced. -/
theorem countP_reported (key : ExpectationKey) :
    sightings.countP (fun s => s.creationKey? == some key) =
      job.announced (vacancies (job.podsIn c.store) job.spec.replicaSpecs.entries)
        (vacancies (job.servicesIn c.store) job.spec.replicaSpecs.entries) key := by
  have htypes : ∀ {α : Type} [HasMetadata α] (objects : List α),
      ∀ s ∈ vacancies objects job.spec.replicaSpecs.entries, IsReplicaType s.1 := by
    intro α _ objects s hs
    obtain ⟨e, he, htype, -⟩ := mem_vacancies.1 hs
    exact htype ▸ Job.isReplicaType_of_acceptable hvalid he
  rw [hreported.countP_eq, List.countP_append, List.countP_map, List.countP_map]
  have hpods := hfills.pods.countP_new (htypes _) .pods key
  have hservices := hfills.services.countP_new (htypes _) .services key
  exact congr (congrArg _ hpods) hservices

/-- **When everything that a pass made has been reported, nothing is outstanding for the job.** -/
theorem not_heldUp_of_reported (hfree : ¬ job.HeldUp now c) (hlater : now.nanos ≤ later.nanos) :
    ¬ job.HeldUp later (sightings.foldl Sighting.take c') := by
  obtain ⟨-, htimeout, hrecords⟩ := foldl_take (fun s hs => appears_of_reported hfills hreported hs) c'
  rw [Job.not_heldUp_iff] at hfree ⊢
  refine ⟨hfree.1, fun key hkey => ?_⟩
  have hsatisfied := Expectations.satisfied_later hlater (hfree.2 key hkey)
  rw [Expectations.satisfied_iff] at hsatisfied ⊢
  intro record hrecord
  rw [hrecords, countP_reported hvalid hfills hreported, hfills.announced.records] at hrecord
  obtain ⟨old, hold, rfl⟩ := Option.map_eq_some_iff.1 hrecord
  split at hold
  · next hnone =>
    -- Nothing was announced under the key, so its record is as it was before the pass.
    rw [htimeout, hfills.announced.timeout, hnone]
    refine (hsatisfied old hold).imp (fun h => ?_) id
    unfold Expectation.fulfilled Expectation.lower at *
    simp only [Bool.and_eq_true, decide_eq_true_eq] at *
    omega
  · rw [Option.some.injEq] at hold
    subst hold
    left
    unfold Expectation.fulfilled Expectation.lower
    simp only [Bool.and_eq_true, decide_eq_true_eq]
    omega

end Reported

/-! ## The next pass -/

/-- Every pod and every service that is there was there before, and as it is. -/
structure AddsNothing (c c' : Controller MemoryStore) : Prop where
  pods : ∀ x pod, c'.store.pods.get? x = some pod → c.store.pods.get? x = some pod
  services : ∀ x service, c'.store.services.get? x = some service → c.store.services.get? x = some service

/-- Where pods and services are the same, nothing was added. -/
theorem AddsNothing.of_eq (hpods : c'.store.pods = c.store.pods) (hservices : c'.store.services = c.store.services) :
    AddsNothing c c' :=
  ⟨fun _ _ h => hpods ▸ h, fun _ _ h => hservices ▸ h⟩

/-- What the controller says and computes adds nothing. -/
theorem addsNothing_frame : Frame AddsNothing where
  refl _ := .of_eq rfl rfl
  trans h₁ h₂ :=
    ⟨fun x pod h => h₁.pods x pod (h₂.pods x pod h), fun x service h => h₁.services x service (h₂.services x service h)⟩
  told _ _ := .of_eq rfl rfl

/-- A request that leaves pods and services alone or takes some away adds none. -/
theorem AddsNothing.of_effect {change : MemoryStore → MemoryStore} {s : MemoryStore}
    (h : Effect change c.store s) (hchange : AddsNothing c { c with store := change c.store }) :
    AddsNothing c { c with store := s } := by
  cases h with
  | refused => exact .of_eq rfl rfl
  | made => exact hchange

/-- Writing a status adds neither pods nor services. -/
theorem addsNothing_updateJobStatus (status : JobStatus) (c : Controller MemoryStore) :
    AddsNothing c (requested (ObjectStore.updateJobStatus job status) c) :=
  have h : SameObjects c (requested (ObjectStore.updateJobStatus job status) c) :=
    sameObjects_updateJobStatus status c
  .of_eq h.pods h.services

/-- A pass over a job without an empty slot adds nothing. -/
theorem addsNothing_sync (hkey : splitKey? key = some (a.ns, a.name)) (hstored : c.store.jobs.get? a = some stored)
    (hvalid : stored.withDefaults.spec.fault? = none)
    (hpods : ∀ e ∈ stored.withDefaults.spec.replicaSpecs.entries,
      vacant (slotsOf e.1 e.2.slotCount (stored.withDefaults.podsIn c.store)) = [])
    (hservices : ∀ e ∈ stored.withDefaults.spec.replicaSpecs.entries,
      vacant (slotsOf e.1 e.2.slotCount (stored.withDefaults.servicesIn c.store)) = []) :
    AddsNothing c ((sync now key).run c).2 := by
  have hR := addsNothing_frame
  have hdeletePod : ∀ (b : Address) (c : Controller MemoryStore),
      AddsNothing c (requested (ObjectStore.deletePod b) c) := fun b c =>
    .of_effect (effect_deletePod b c.store) ⟨fun _ _ => Dict.get?_of_erase, fun _ _ => id⟩
  have h : Yields (sync now key) c (fun _ c' => AddsNothing c c') fun _ c' => AddsNothing c c' := by
    refine yields_sync_of_ways hkey hstored hvalid (fun _ _ _ => .of_eq rfl rfl) (fun _ _ _ => hR.refl c)
      (fun c₁ failure h₁ _ _ => ?_) fun c₁ h₁ _ _ _ => ?_
    all_goals have hbefore : AddsNothing c c₁ := .of_eq h₁.pods h₁.services
    · -- The end of a job only takes away.
      refine (keeps_terminate hR (fun pod _ c => hdeletePod _ c) (fun pod _ c => ?_) (fun _ => hR.refl _)
        (fun c => ?_) (fun c => ?_) (addsNothing_updateJobStatus _)
        (fun _ _ => .of_eq rfl rfl) c₁).mono (fun _ _ => hR.trans hbefore) fun _ _ => hR.trans hbefore
      · exact .of_effect (effect_deleteService _ c.store) ⟨fun _ _ => id, fun _ _ => Dict.get?_of_erase⟩
      · exact .of_effect (effect_deletePodGroup _ c.store) (.of_eq rfl rfl)
      · exact .of_effect (effect_deleteJob _ c.store) (.of_eq rfl rfl)
    · -- No slot is empty, so no plan creates anything.
      refine (keeps_advance hR (fun e he => ⟨?_, ?_⟩) (fun status => addsNothing_updateJobStatus status) c₁).mono
        (fun _ _ => hR.trans hbefore) fun _ _ => hR.trans hbefore
      · refine keeps_reconcilePods hR (fun _ _ _ => .of_eq rfl rfl) (fun _ _ _ => .of_eq rfl rfl)
          (fun _ _ c => hdeletePod _ c) fun index hindex => ?_
        rw [show (podPlan e.1 e.2 _).missing = [] from hpods e he] at hindex
        exact absurd hindex List.not_mem_nil
      · refine keeps_reconcileServices hR (fun _ _ _ => .of_eq rfl rfl) (fun _ _ _ => .of_eq rfl rfl)
          fun index hindex => ?_
        rw [hservices e he] at hindex
        exact absurd hindex List.not_mem_nil
  exact h.run

/-- **Convergence without duplicates.** On a store that refuses nothing, let a pass get to look at the slots of a
stored job whose pods and services are arranged and none of whose pods has failed. The pass ends well; it makes
one pod for every slot without a pod and one service for every slot without a service, and leaves every other
object as it is. When all that it made has been reported, in whichever order, nothing is outstanding for the
job, and the next pass adds nothing. -/
theorem converges_without_duplicates (hkey : splitKey? key = some (a.ns, a.name))
    (hstored : c.store.jobs.get? a = some stored) (haddress : stored.address = a)
    (hvalid : stored.withDefaults.spec.fault? = none) (huid : stored.metadata.uid.isSome = true)
    (hfailures : c.store.failures = []) (hpods : stored.withDefaults.Arranged c.store.pods)
    (hservices : stored.withDefaults.Arranged c.store.services)
    (hunfailed : ∀ pod ∈ stored.withDefaults.podsIn c.store, pod.phase? ≠ some "Failed")
    (hopen : (stored.withDefaults.takenIn now).isFinished = false)
    (hfree : ¬ stored.withDefaults.HeldUp now c)
    (hlimit : stored.withDefaults.exceeded? (stored.withDefaults.podsIn c.store)
      (c.retries.count stored.withDefaults.key) (stored.withDefaults.takenIn now) now = none) :
    ∃ outcome c', (sync now key).run c = (.ok outcome, c') ∧
      stored.withDefaults.Completed c.store.pods c'.store.pods ∧
      stored.withDefaults.Completed c.store.services c'.store.services ∧
      ∀ sightings, Reported c c' sightings → ∀ later,
        (now.nanos ≤ later.nanos → ¬ stored.withDefaults.HeldUp later (sightings.foldl Sighting.take c')) ∧
        AddsNothing (sightings.foldl Sighting.take c')
          ((sync later key).run (sightings.foldl Sighting.take c')).2 := by
  have hslash : Slashless stored.withDefaults.name := by
    subst haddress
    exact slashless_of_splitKey? hkey
  have hpass := fills_sync hkey hstored haddress hvalid huid hfailures hpods hservices hunfailed hopen
    hfree hlimit
  rcases hrun : (sync now key).run c with ⟨e | outcome, c'⟩
  · exact (hpass.error hrun).elim
  · have hfills := hpass.ok hrun
    have hcompletedPods := hpods.completed hslash hvalid hfills.pods
    have hcompletedServices := hservices.completed hslash hvalid hfills.services
    refine ⟨outcome, c', rfl, hcompletedPods, hcompletedServices, fun sightings hreported later =>
      ⟨not_heldUp_of_reported hvalid hfills hreported hfree, ?_⟩⟩
    obtain ⟨hstore, -, -⟩ := foldl_take (fun s hs => appears_of_reported hfills hreported hs) c'
    rcases hnext : c'.store.jobs.get? a with _ | next
    · -- A job that is gone has nothing made for it.
      refine Yields.run (yields_sync_of_absent hkey (by rw [hstore]; exact hnext) (fun _ _ _ => ?_) ?_)
      · exact .of_eq rfl rfl
      · exact .of_eq rfl rfl
    · obtain ⟨found, hfound, -, hsame⟩ := ((yields_sync now hkey hstored haddress).ok hrun).2.stored hnext
      rw [hstored, Option.some.injEq] at hfound
      subst hfound
      have hspec : next.withDefaults.spec = stored.withDefaults.spec := congrArg JobSpec.withDefaults hsame.spec
      have hlisted : ∀ {α : Type} [HasMetadata α] (objects : Dict Address α),
          next.withDefaults.listed objects = stored.withDefaults.listed objects := by
        intro α _ objects
        unfold Job.listed
        rw [show next.withDefaults.ns = stored.withDefaults.ns from hsame.ns,
          show next.withDefaults.name = stored.withDefaults.name from hsame.name]
      refine addsNothing_sync hkey (by rw [hstore]; exact hnext) (hspec ▸ hvalid) (fun e he => ?_) fun e he => ?_
      · rw [show next.withDefaults.podsIn _ = _ from hlisted _, hstore]
        exact hcompletedPods.vacant_eq_nil (hspec ▸ he)
      · rw [show next.withDefaults.servicesIn _ = _ from hlisted _, hstore]
        exact hcompletedServices.vacant_eq_nil (hspec ▸ he)

end Controller

/-- A job of a master and three workers. -/
def quartet : Job :=
  let job := sampleJob {} [(masterType, sampleType 1 .never), (workerType, sampleType 3 .exitCode)] none
  { job with metadata := { job.metadata with uid := some "uid-0", resourceVersion := some "1" } }

/-- Of it the second worker has a pod, and the master has a service. -/
def partlyFilled : Controller MemoryStore :=
  let start := sampleStartWith quartet [samplePod workerType 1 "Running" none]
  let service := sampleService masterType 0
  { start with store := { start.store with services := .ofList [(service.metadata.address, service)] } }

/-- A pass makes the other pods and services, and the next one makes no more. -/
theorem partlyFilled_converges :
    partlyFilled.store.pods.contains ⟨"default", slotName "iris" workerType 2⟩ = false ∧
      ∃ outcome c', (sync (sampleTime 1) sampleKey).run partlyFilled = (.ok outcome, c') ∧
        quartet.withDefaults.Completed partlyFilled.store.pods c'.store.pods ∧
        quartet.withDefaults.Completed partlyFilled.store.services c'.store.services ∧
        ∀ sightings, Reported partlyFilled c' sightings → ∀ later,
          ((sampleTime 1).nanos ≤ later.nanos →
            ¬ quartet.withDefaults.HeldUp later (sightings.foldl Sighting.take c')) ∧
          AddsNothing (sightings.foldl Sighting.take c')
            ((sync later sampleKey).run (sightings.foldl Sighting.take c')).2 := by
  have hstored : partlyFilled.store.jobs.get? sampleAddress = some quartet := by decide +kernel
  have hvalid : quartet.withDefaults.spec.fault? = none := by decide +kernel
  have hownPods : ∀ x ∈ partlyFilled.store.pods.entries, ∃ e ∈ quartet.withDefaults.spec.replicaSpecs.entries,
      ∃ index < e.2.slotCount, x.1 = quartet.withDefaults.slotAddress (e.1, index) ∧
        Labels.selectedBy (HasMetadata.metadata x.2).labelsOrEmpty
          (Labels.ofSlot Job.group quartet.withDefaults.name e.1 index) = true := by
    decide +kernel
  have hownServices : ∀ x ∈ partlyFilled.store.services.entries,
      ∃ e ∈ quartet.withDefaults.spec.replicaSpecs.entries,
      ∃ index < e.2.slotCount, x.1 = quartet.withDefaults.slotAddress (e.1, index) ∧
        Labels.selectedBy (HasMetadata.metadata x.2).labelsOrEmpty
          (Labels.ofSlot Job.group quartet.withDefaults.name e.1 index) = true := by
    decide +kernel
  -- Every object there carries the marks of its slot, and those of a slot include those of the job.
  have hpods : quartet.withDefaults.Arranged partlyFilled.store.pods :=
    ⟨fun x o ho _ _ => hownPods (x, o) (Dict.get?_eq_some_iff.1 ho), fun e he index hindex o ho => by
      obtain ⟨_, _, _, _, _, hlabels⟩ := hownPods _ (Dict.get?_eq_some_iff.1 ho)
      exact Labels.selectedBy_trans hlabels (Labels.ofSlot_selectedBy_ofJob _ _ _ _)⟩
  have hservices : quartet.withDefaults.Arranged partlyFilled.store.services :=
    ⟨fun x o ho _ _ => hownServices (x, o) (Dict.get?_eq_some_iff.1 ho), fun e he index hindex o ho => by
      obtain ⟨_, _, _, _, _, hlabels⟩ := hownServices _ (Dict.get?_eq_some_iff.1 ho)
      exact Labels.selectedBy_trans hlabels (Labels.ofSlot_selectedBy_ofJob _ _ _ _)⟩
  exact ⟨by decide +kernel, converges_without_duplicates splitKey?_sampleKey hstored (by decide +kernel) hvalid rfl
    (by decide +kernel) hpods hservices (by decide +kernel) (by decide +kernel) (by decide +kernel)
    (by decide +kernel)⟩

end TrainingJobs
