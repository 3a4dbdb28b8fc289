/-
What a pass supplies.

A pass that finds nothing outstanding creates a pod for every slot without one and a service for every slot
without one, type by type. On a store that refuses nothing each of these requests goes through, because the
address that it is for is free: it was free at the start, and what the pass has made in between stands at the
addresses of other slots. So after the pass there is one new object at the address of every slot that was
empty (`Job.Supplied`), and what is recorded as outstanding is exactly what was made
(`Expectations.Announced`).
-/
import TrainingJobs.Proofs.Arrangement
import TrainingJobs.Proofs.Replacement

set_option autoImplicit false

namespace TrainingJobs

/-! ## What has come in -/

/-- One object for each of these slots has been added to a collection, at an address that was free, and
nothing else has changed in it. -/
structure Job.Supplied {α : Type} [HasMetadata α] (job : Job) (slots : List (String × Nat))
    (objects objects' : Dict Address α) : Prop where
  distinct : (slots.map job.slotAddress).Nodup
  free : ∀ s ∈ slots, objects.get? (job.slotAddress s) = none
  made : ∀ s ∈ slots, ∃ o, objects'.get? (job.slotAddress s) = some o ∧
    (HasMetadata.metadata o).MadeFor job.ns job.name s.1 s.2
  kept : ∀ x, x ∉ slots.map job.slotAddress → objects'.get? x = objects.get? x

namespace Job

section Supplied

variable {α : Type} [HasMetadata α] {job : Job} {slots slots' : List (String × Nat)}
  {objects objects₁ objects₂ : Dict Address α}

/-- Where no slots are to be supplied, nothing comes in. -/
theorem Supplied.nil (objects : Dict Address α) : job.Supplied [] objects objects :=
  ⟨List.nodup_nil, by simp, by simp, fun _ _ => rfl⟩

/-- A new object at a free address supplies one slot. -/
theorem Supplied.single {s : String × Nat} {o : α} (hfree : objects.get? (job.slotAddress s) = none)
    (hmade : (HasMetadata.metadata o).MadeFor job.ns job.name s.1 s.2) :
    job.Supplied [s] objects (objects.insert (job.slotAddress s) o) where
  distinct := List.pairwise_singleton _ _
  free := List.forall_mem_singleton.2 hfree
  made := List.forall_mem_singleton.2 ⟨o, Dict.get?_insert_self _ _ _, hmade⟩
  kept _ hx := Dict.get?_insert_ne _ _ fun heq => hx (List.mem_singleton.2 heq)

/-- What was made first is in the way of nothing that is made later. -/
theorem Supplied.trans (h₁ : job.Supplied slots objects objects₁) (h₂ : job.Supplied slots' objects₁ objects₂) :
    job.Supplied (slots ++ slots') objects objects₂ := by
  -- The later slots were free when the earlier were supplied already.
  have hapart : ∀ s ∈ slots, ∀ s' ∈ slots', job.slotAddress s ≠ job.slotAddress s' := by
    intro s hs s' hs' heq
    obtain ⟨o, ho, -⟩ := h₁.made s hs
    rw [heq, h₂.free s' hs'] at ho
    exact absurd ho (by simp)
  have hnotMem : ∀ s ∈ slots, job.slotAddress s ∉ slots'.map job.slotAddress := by
    intro s hs hmem
    obtain ⟨s', hs', heq⟩ := List.mem_map.1 hmem
    exact hapart s hs s' hs' heq.symm
  have hnotMem' : ∀ s' ∈ slots', job.slotAddress s' ∉ slots.map job.slotAddress := by
    intro s' hs' hmem
    obtain ⟨s, hs, heq⟩ := List.mem_map.1 hmem
    exact hapart s hs s' hs' heq
  refine ⟨?_, fun s hs => ?_, fun s hs => ?_, fun x hx => ?_⟩
  · rw [List.map_append]
    refine List.nodup_append.2 ⟨h₁.distinct, h₂.distinct, fun x hx y hy heq => ?_⟩
    obtain ⟨s, hs, rfl⟩ := List.mem_map.1 hx
    exact hnotMem s hs (heq ▸ hy)
  · rcases List.mem_append.1 hs with hs | hs
    · exact h₁.free s hs
    · rw [← h₁.kept _ (hnotMem' s hs)]
      exact h₂.free s hs
  · rcases List.mem_append.1 hs with hs | hs
    · rw [h₂.kept _ (hnotMem s hs)]
      exact h₁.made s hs
    · exact h₂.made s hs
  · rw [List.map_append, List.mem_append, not_or] at hx
    exact (h₂.kept x hx.2).trans (h₁.kept x hx.1)

end Supplied

end Job

/-- The empty slots of these replica types, by the objects that were listed. -/
def vacancies {α : Type} [HasMetadata α] (objects : List α) (entries : List (String × ReplicaSpec)) :
    List (String × Nat) :=
  entries.flatMap fun e => (vacant (slotsOf e.1 e.2.slotCount objects)).map (e.1, ·)

/-- The vacancies of several types are those of the first and those of the rest. -/
theorem vacancies_cons {α : Type} [HasMetadata α] (e : String × ReplicaSpec) (rest : List (String × ReplicaSpec))
    (objects : List α) : vacancies objects (e :: rest) = vacancies objects [e] ++ vacancies objects rest := by
  unfold vacancies
  rw [List.flatMap_cons, List.flatMap_singleton]

/-- A vacancy is a vacant slot of one of the types. -/
theorem mem_vacancies {α : Type} [HasMetadata α] {objects : List α} {entries : List (String × ReplicaSpec)}
    {s : String × Nat} : s ∈ vacancies objects entries ↔
      ∃ e ∈ entries, s.1 = e.1 ∧ s.2 ∈ vacant (slotsOf e.1 e.2.slotCount objects) := by
  unfold vacancies
  rw [List.mem_flatMap]
  refine exists_congr fun e => and_congr_right fun _ => ?_
  rw [List.mem_map]
  constructor
  · rintro ⟨index, hindex, rfl⟩
    exact ⟨rfl, hindex⟩
  · rintro ⟨htype, hindex⟩
    exact ⟨s.2, hindex, Prod.ext htype.symm rfl⟩

namespace Job

variable {job : Job}

/-- How many creations are announced under a key when the pods and services of these slots are asked for. -/
def announced (job : Job) (podSlots serviceSlots : List (String × Nat)) (key : ExpectationKey) : Nat :=
  podSlots.countP (fun s => key == .of job.key s.1 .pods) +
    serviceSlots.countP fun s => key == .of job.key s.1 .services

/-- What is announced for more slots adds up. -/
theorem announced_append (podSlots serviceSlots podSlots' serviceSlots' : List (String × Nat))
    (key : ExpectationKey) :
    job.announced (podSlots ++ podSlots') (serviceSlots ++ serviceSlots') key =
      job.announced podSlots serviceSlots key + job.announced podSlots' serviceSlots' key := by
  unfold announced
  rw [List.countP_append, List.countP_append]
  omega

/-- Nothing is announced for a replica type whose slots are not among them. -/
theorem announced_eq_zero {podSlots serviceSlots : List (String × Nat)} {key : ExpectationKey}
    (hpods : ∀ s ∈ podSlots, Text.lowercase s.1 ≠ key.replicaType)
    (hservices : ∀ s ∈ serviceSlots, Text.lowercase s.1 ≠ key.replicaType) :
    job.announced podSlots serviceSlots key = 0 := by
  unfold announced
  rw [Nat.add_eq_zero_iff, List.countP_eq_zero, List.countP_eq_zero]
  refine ⟨fun s hs heq => hpods s hs ?_, fun s hs heq => hservices s hs ?_⟩
  · rw [beq_iff_eq.1 heq]
    rfl
  · rw [beq_iff_eq.1 heq]
    rfl

/-- For the slots of one type all is announced under one key. -/
theorem countP_slots (indices : List Nat) (replicaType : String) (kind : Controllee) (key : ExpectationKey) :
    (indices.map (replicaType, ·)).countP (fun s => key == .of job.key s.1 kind) =
      if key = .of job.key replicaType kind then indices.length else 0 := by
  rw [List.countP_map]
  by_cases hkey : key = .of job.key replicaType kind
  · rw [if_pos hkey, List.countP_eq_length]
    exact fun i _ => beq_iff_eq.2 hkey
  · rw [if_neg hkey, List.countP_eq_zero]
    exact fun i _ heq => hkey (beq_iff_eq.1 heq)

end Job

/-- As many creations as `count` says are outstanding since `now`, and where it says none, nothing has been
recorded. -/
structure Expectations.Announced (now : Timestamp) (count : ExpectationKey → Nat) (e e' : Expectations) :
    Prop where
  timeout : e'.timeout = e.timeout
  records : ∀ key, e'.records.get? key =
    if count key = 0 then e.records.get? key else some ⟨(count key : Nat), 0, now⟩

namespace Expectations

variable {now : Timestamp} {count count' : ExpectationKey → Nat} {e e₁ e₂ : Expectations}

/-- Where nothing is announced the expectations may stay as they are. -/
theorem Announced.refl (now : Timestamp) (e : Expectations) : e.Announced now (fun _ => 0) e :=
  ⟨rfl, fun _ => (if_pos rfl).symm⟩

/-- Under a key where nothing is announced a thing is satisfied that was. -/
theorem Announced.satisfied_eq (h : e.Announced now count e₁) {key : ExpectationKey} (hkey : count key = 0)
    (later : Timestamp) : e₁.satisfied key later = e.satisfied key later := by
  unfold satisfied
  rw [h.records, if_pos hkey, h.timeout]

/-- Announcements under different keys add up. -/
theorem Announced.trans (h₁ : e.Announced now count e₁) (h₂ : e₁.Announced now count' e₂)
    (hapart : ∀ key, count key = 0 ∨ count' key = 0) :
    e.Announced now (fun key => count key + count' key) e₂ := by
  refine ⟨h₂.timeout.trans h₁.timeout, fun key => ?_⟩
  rw [h₂.records, h₁.records]
  rcases hapart key with h | h
  · rw [h, Nat.zero_add, if_pos rfl]
  · rw [h, Nat.add_zero, if_pos rfl]

/-- To set a record announces what it is set to. -/
theorem announced_set (now : Timestamp) (e : Expectations) (key : ExpectationKey) {n : Nat} (hn : n ≠ 0) :
    e.Announced now (fun k => if k = key then n else 0) (e.set key n 0 now) := by
  refine ⟨rfl, fun k => ?_⟩
  by_cases hk : k = key
  · subst hk
    rw [if_pos rfl, if_neg hn]
    exact Dict.get?_insert_self _ _ _
  · rw [if_neg hk, if_pos rfl]
    exact Dict.get?_insert_ne _ _ hk

end Expectations

namespace Controller

open MemoryStore

variable {now : Timestamp} {job : Job} {c c' : Controller MemoryStore}

/-- The pods of some slots and the services of others have come in. -/
structure Supplies (job : Job) (podSlots serviceSlots : List (String × Nat)) (c c' : Controller MemoryStore) :
    Prop where
  failures : c'.store.failures = c.store.failures
  pods : job.Supplied podSlots c.store.pods c'.store.pods
  services : job.Supplied serviceSlots c.store.services c'.store.services

theorem Supplies.refl (job : Job) (c : Controller MemoryStore) : Supplies job [] [] c c := ⟨rfl, .nil _, .nil _⟩

/-- What comes in in two steps comes in together. -/
theorem Supplies.trans {podSlots serviceSlots podSlots' serviceSlots' : List (String × Nat)}
    {c₁ c₂ c₃ : Controller MemoryStore} (h₁ : Supplies job podSlots serviceSlots c₁ c₂)
    (h₂ : Supplies job podSlots' serviceSlots' c₂ c₃) :
    Supplies job (podSlots ++ podSlots') (serviceSlots ++ serviceSlots') c₁ c₃ :=
  ⟨h₂.failures.trans h₁.failures, h₁.pods.trans h₂.pods, h₁.services.trans h₂.services⟩

/-! ## One object -/

/-- A creation at a free address goes through. -/
theorem yields_request_create_of_free {α : Type} [HasMetadata α] {objects : MemoryStore → Dict Address α}
    {withObjects : MemoryStore → Dict Address α → MemoryStore} (op : StoreOp) (collection ns : String)
    (object : α) (h : c.store.failures = []) (hfree : (objects c.store).get? ⟨ns, nameOf object⟩ = none) :
    Yields (request (guarded op (create collection objects withObjects ns object))) c
      (fun _ c' => c' = { c with store := created objects withObjects ns object c.store }) fun _ _ => False := by
  have hnone : (objects c.store).contains ⟨ns, nameOf object⟩ = false := by
    rw [Dict.contains, hfree]
    rfl
  rw [yields_request, run_guarded_of_nil op _ h, run_create, hnone, if_neg Bool.false_ne_true]

/-- The pod of a slot comes in. -/
theorem yields_createPod_of_free {key : ExpectationKey} {replicaType : String} {spec : ReplicaSpec} {index : Nat}
    (howner : ∃ owner, job.ownerReference = .ok owner)
    (htemplate : ∃ template, job.slotTemplate spec.template (Text.lowercase replicaType) index = .ok template)
    (hfailures : c.store.failures = [])
    (hfree : c.store.pods.get? (job.slotAddress (replicaType, index)) = none) :
    Yields (createPod job key replicaType spec index) c
      (fun _ c' => Supplies job [(replicaType, index)] [] c c' ∧ c'.expectations = c.expectations)
      fun _ _ => False := by
  obtain ⟨owner, howner⟩ := howner
  obtain ⟨template, htemplate⟩ := htemplate
  unfold createPod
  simp only
  rw [yields_bind, yields_get, yields_bind, yields_settle, htemplate]
  simp only
  rw [yields_bind, yields_tellAll, yields_bind, yields_settle, howner]
  simp only
  rw [yields_bind, yields_attempt]
  have hmade := Job.madeFor_podFor howner c.config replicaType index spec.restart template
  generalize job.podFor c.config replicaType index spec.restart template owner = pod at hmade
  have hplace : (⟨job.ns, nameOf (asCreated pod)⟩ : Address) = job.slotAddress (replicaType, index) :=
    congrArg (Address.mk job.ns) hmade.name
  rw [← hplace] at hfree
  -- The address of the slot is free, so the creation is made as asked.
  have hrequest : ∀ events, Yields (request (ObjectStore.createPod job.ns pod)) { c with events := events }
      (fun _ c' => c' = { c with events := events, store := withPod job.ns pod c.store }) fun _ _ => False :=
    fun _ => yields_request_create_of_free _ _ _ _ hfailures hfree
  refine (hrequest _).mono (fun _ c₁ h => ?_) fun _ _ => False.elim
  rw [hplace] at hfree
  subst h
  have hstored := hmade.of_sameMarks (sameMarks_asPlaced c.store (o := asCreated pod) hmade.place)
  refine ⟨⟨rfl, ?_, .nil _⟩, rfl⟩
  have hsupplied := Job.Supplied.single hfree hstored
  rw [← hplace] at hsupplied
  exact hsupplied

/-- The service of a slot comes in. -/
theorem yields_createService_of_free {key : ExpectationKey} {replicaType : String} {spec : ReplicaSpec}
    {index : Nat} (howner : ∃ owner, job.ownerReference = .ok owner)
    (hport : ∃ port, spec.meetingPort = .ok port) (hfailures : c.store.failures = [])
    (hfree : c.store.services.get? (job.slotAddress (replicaType, index)) = none) :
    Yields (createService job key replicaType spec index) c
      (fun _ c' => Supplies job [] [(replicaType, index)] c c' ∧ c'.expectations = c.expectations)
      fun _ _ => False := by
  obtain ⟨owner, howner⟩ := howner
  obtain ⟨port, hport⟩ := hport
  unfold createService
  simp only
  rw [yields_bind, yields_settle, hport]
  simp only
  rw [yields_bind, yields_settle, howner]
  simp only
  rw [yields_bind, yields_attempt]
  have hrequest : Yields (request (ObjectStore.createService job.ns (job.serviceFor replicaType index port owner))) c
      (fun _ c' => c' =
        { c with store := withService job.ns (job.serviceFor replicaType index port owner) c.store })
      fun _ _ => False :=
    yields_request_create_of_free _ _ _ _ hfailures hfree
  refine hrequest.mono (fun _ c₁ h => ?_) fun _ _ => False.elim
  subst h
  have hmade := Job.madeFor_serviceFor howner replicaType index port
  have hstored := hmade.of_sameMarks
    (sameMarks_asPlaced c.store (o := job.serviceFor replicaType index port owner) hmade.place)
  exact ⟨⟨rfl, .nil _, .single hfree hstored⟩, rfl⟩

/-! ## One replica type -/

/-- What the pass adds to the pods while it works off its list, the others on the list still find free. -/
theorem free_of_supplied {α : Type} [HasMetadata α] {replicaType : String} {index : Nat} {rest : List Nat}
    {objects objects' : Dict Address α} (hslash : Slashless job.name) (htype : IsReplicaType replicaType)
    (hnotMem : index ∉ rest) (h : job.Supplied [(replicaType, index)] objects objects')
    (hfree : ∀ i ∈ rest, objects.get? (job.slotAddress (replicaType, i)) = none) :
    ∀ i ∈ rest, objects'.get? (job.slotAddress (replicaType, i)) = none := by
  intro i hi
  rw [h.kept _ fun hmem => ?_]
  · exact hfree i hi
  · rw [List.map_singleton, List.mem_singleton] at hmem
    have hslot := Job.slotAddress_inj hslash htype htype hmem
    exact hnotMem ((Prod.mk.inj hslot).2 ▸ hi)

/-- The pods of a list of slots come in, one after the other. -/
theorem yields_performPodRequests_of_free {key : ExpectationKey} {replicaType : String} {spec : ReplicaSpec}
    (howner : ∃ owner, job.ownerReference = .ok owner) (hslash : Slashless job.name)
    (htype : IsReplicaType replicaType) :
    ∀ (missing : List Nat) (c : Controller MemoryStore), missing.Nodup → c.store.failures = [] →
      (∀ i ∈ missing, ∃ template,
        job.slotTemplate spec.template (Text.lowercase replicaType) i = .ok template) →
      (∀ i ∈ missing, c.store.pods.get? (job.slotAddress (replicaType, i)) = none) →
      Yields (performPodRequests job key replicaType spec (missing.map .create)) c
        (fun _ c' => Supplies job (missing.map (replicaType, ·)) [] c c' ∧ c'.expectations = c.expectations)
        fun _ _ => False
  | [], c, _, _, _, _ => ⟨.refl job c, rfl⟩
  | index :: rest, c, hnodup, hfailures, htemplate, hfree => by
    obtain ⟨hnotMem, hrest⟩ := List.nodup_cons.1 hnodup
    obtain ⟨htemplate, htemplates⟩ := List.forall_mem_cons.1 htemplate
    obtain ⟨hfree, hfrees⟩ := List.forall_mem_cons.1 hfree
    rw [List.map_cons, performPodRequests, yields_bind, yields_attempt]
    refine (yields_createPod_of_free howner htemplate hfailures hfree).mono (fun _ c₁ h₁ => ?_)
      fun _ _ => False.elim
    obtain ⟨hsupplies, hexpectations⟩ := h₁
    -- The slot just filled is not among the rest, so their addresses are still free.
    have hfrees₁ := free_of_supplied hslash htype hnotMem hsupplies.pods hfrees
    refine (yields_performPodRequests_of_free howner hslash htype rest c₁ hrest
      (hsupplies.failures.trans hfailures) htemplates hfrees₁).mono (fun _ c₂ h₂ => ?_) fun _ _ => id
    exact ⟨hsupplies.trans h₂.1, h₂.2.trans hexpectations⟩

/-- The services of a list of slots come in, one after the other. -/
theorem yields_createServices_of_free {key : ExpectationKey} {replicaType : String} {spec : ReplicaSpec}
    (howner : ∃ owner, job.ownerReference = .ok owner) (hport : ∃ port, spec.meetingPort = .ok port)
    (hslash : Slashless job.name) (htype : IsReplicaType replicaType) :
    ∀ (missing : List Nat) (c : Controller MemoryStore), missing.Nodup → c.store.failures = [] →
      (∀ i ∈ missing, c.store.services.get? (job.slotAddress (replicaType, i)) = none) →
      Yields (createServices job key replicaType spec missing) c
        (fun _ c' => Supplies job [] (missing.map (replicaType, ·)) c c' ∧ c'.expectations = c.expectations)
        fun _ _ => False
  | [], c, _, _, _ => ⟨.refl job c, rfl⟩
  | index :: rest, c, hnodup, hfailures, hfree => by
    obtain ⟨hnotMem, hrest⟩ := List.nodup_cons.1 hnodup
    obtain ⟨hfree, hfrees⟩ := List.forall_mem_cons.1 hfree
    rw [createServices, yields_bind, yields_attempt]
    refine (yields_createService_of_free howner hport hfailures hfree).mono (fun _ c₁ h₁ => ?_)
      fun _ _ => False.elim
    obtain ⟨hsupplies, hexpectations⟩ := h₁
    have hfrees₁ := free_of_supplied hslash htype hnotMem hsupplies.services hfrees
    refine (yields_createServices_of_free howner hport hslash htype rest c₁ hrest
      (hsupplies.failures.trans hfailures) hfrees₁).mono (fun _ c₂ h₂ => ?_) fun _ _ => id
    exact ⟨hsupplies.trans h₂.1, h₂.2.trans hexpectations⟩

section Types

variable (hjob : job.Serviceable) (hslash : Slashless job.name) (hvalid : job.spec.fault? = none)
  {e : String × ReplicaSpec} (he : e ∈ job.spec.replicaSpecs.entries)
include hjob hslash hvalid he

/-- A replica type whose pods need no replacement gets a pod for every slot that has none, and as many are
announced. -/
theorem yields_reconcilePods_of_free {pods : List Pod} (hfailures : c.store.failures = [])
    (hsatisfied : c.expectations.satisfied (.of job.key e.1 .pods) now = true)
    (hrestarts : (podPlan e.1 e.2 pods).restarts = [])
    (hfree : ∀ i ∈ (podPlan e.1 e.2 pods).missing, c.store.pods.get? (job.slotAddress (e.1, i)) = none) :
    Yields (reconcilePods now job e.1 e.2 pods) c
      (fun _ c' => Supplies job ((podPlan e.1 e.2 pods).missing.map (e.1, ·)) [] c c' ∧
        c.expectations.Announced now
          (fun key => if key = .of job.key e.1 .pods then (podPlan e.1 e.2 pods).missing.length else 0)
          c'.expectations)
      fun _ _ => False := by
  have hrequests : (podPlan e.1 e.2 pods).requests = (podPlan e.1 e.2 pods).missing.map .create := by
    unfold PodPlan.requests
    rw [hrestarts]
    rfl
  unfold reconcilePods carryOut
  simp only
  rw [yields_bind, yields_tellAll, hrequests, hrestarts]
  split
  · next hnone =>
    rw [List.isEmpty_iff, List.map_eq_nil_iff] at hnone
    rw [hnone]
    refine ⟨⟨rfl, .nil _, .nil _⟩, ?_⟩
    simp only [List.length_nil, ite_self]
    exact .refl now _
  · -- With something missing, the requests are announced and then all made.
    next hsome =>
    rw [List.isEmpty_iff, List.map_eq_nil_iff] at hsome
    rw [yields_bind, yields_get, hsatisfied, if_neg (by decide), yields_bind, yields_expecting, yields_bind]
    refine Yields.mono (yields_performPodRequests_of_free hjob.owner hslash
      (Job.isReplicaType_of_acceptable hvalid he) _ _ (nodup_vacant _) ?_ ?_ ?_) (fun _ c' h => ?_) fun _ _ => id
    · exact hfailures
    · exact fun i hi => hjob.template e he i (lt_of_mem_missing hi)
    · exact hfree
    · obtain ⟨hsupplies, hexpectations⟩ := h
      refine ⟨⟨hsupplies.failures, hsupplies.pods, hsupplies.services⟩, ?_⟩
      rw [hexpectations]
      exact Expectations.announced_set now _ _ (mt List.length_eq_zero_iff.1 hsome)

/-- A replica type gets a service for every slot that has none, and as many are announced. -/
theorem yields_reconcileServices_of_free {services : List Service} (hfailures : c.store.failures = [])
    (hsatisfied : c.expectations.satisfied (.of job.key e.1 .services) now = true)
    (hfree : ∀ i ∈ vacant (slotsOf e.1 e.2.slotCount services),
      c.store.services.get? (job.slotAddress (e.1, i)) = none) :
    Yields (reconcileServices now job e.1 e.2 services) c
      (fun _ c' => Supplies job [] ((vacant (slotsOf e.1 e.2.slotCount services)).map (e.1, ·)) c c' ∧
        c.expectations.Announced now
          (fun key => if key = .of job.key e.1 .services then
            (vacant (slotsOf e.1 e.2.slotCount services)).length else 0)
          c'.expectations)
      fun _ _ => False := by
  unfold reconcileServices
  simp only
  split
  · next hnone =>
    rw [List.isEmpty_iff] at hnone
    rw [hnone]
    refine ⟨⟨rfl, .nil _, .nil _⟩, ?_⟩
    simp only [List.length_nil, ite_self]
    exact .refl now _
  · next hsome =>
    rw [List.isEmpty_iff] at hsome
    rw [yields_bind, yields_get, hsatisfied, if_neg (by decide), yields_bind, yields_expecting]
    refine Yields.mono (yields_createServices_of_free hjob.owner (hjob.port e he) hslash
      (Job.isReplicaType_of_acceptable hvalid he) _ _ (nodup_vacant _) ?_ ?_) (fun _ c' h => ?_) fun _ _ => id
    · exact hfailures
    · exact hfree
    · obtain ⟨hsupplies, hexpectations⟩ := h
      refine ⟨⟨hsupplies.failures, hsupplies.pods, hsupplies.services⟩, ?_⟩
      rw [hexpectations]
      exact Expectations.announced_set now _ _ (mt List.length_eq_zero_iff.1 hsome)

/-- A replica type gets its pods and then its services. -/
theorem yields_type_of_free {pods : List Pod} {services : List Service} (hfailures : c.store.failures = [])
    (hsatisfied : ∀ kind, c.expectations.satisfied (.of job.key e.1 kind) now = true)
    (hrestarts : (podPlan e.1 e.2 pods).restarts = [])
    (hpods : ∀ s ∈ vacancies pods [e], c.store.pods.get? (job.slotAddress s) = none)
    (hservices : ∀ s ∈ vacancies services [e], c.store.services.get? (job.slotAddress s) = none) :
    Yields (reconcilePods now job e.1 e.2 pods) c
      (fun _ c₁ => Yields (reconcileServices now job e.1 e.2 services) c₁
        (fun _ c₂ => Supplies job (vacancies pods [e]) (vacancies services [e]) c c₂ ∧
          c.expectations.Announced now (job.announced (vacancies pods [e]) (vacancies services [e]))
            c₂.expectations)
        fun _ _ => False)
      fun _ _ => False := by
  have hmem : ∀ {α : Type} [HasMetadata α] {objects : List α} {i : Nat},
      i ∈ vacant (slotsOf e.1 e.2.slotCount objects) → (e.1, i) ∈ vacancies objects [e] :=
    fun hi => mem_vacancies.2 ⟨e, List.mem_singleton_self e, rfl, hi⟩
  have hkind : ExpectationKey.of job.key e.1 .services ≠ .of job.key e.1 .pods := fun heq =>
    Controllee.noConfusion (congrArg ExpectationKey.controllee heq)
  refine (yields_reconcilePods_of_free hjob hslash hvalid he hfailures (hsatisfied .pods) hrestarts
    fun i hi => hpods _ (hmem hi)).mono (fun _ c₁ h₁ => ?_) fun _ _ => id
  obtain ⟨hsupplies₁, hannounced₁⟩ := h₁
  refine (yields_reconcileServices_of_free hjob hslash hvalid he (hsupplies₁.failures.trans hfailures) ?_ ?_).mono
    (fun _ c₂ h₂ => ?_) fun _ _ => id
  · rw [hannounced₁.satisfied_eq (if_neg hkind)]
    exact hsatisfied .services
  · intro i hi
    rw [hsupplies₁.services.kept _ List.not_mem_nil]
    exact hservices _ (hmem hi)
  · obtain ⟨hsupplies₂, hannounced₂⟩ := h₂
    have hpodSlots : vacancies pods [e] = (podPlan e.1 e.2 pods).missing.map (e.1, ·) ++ [] := List.flatMap_cons
    have hserviceSlots : vacancies services [e] =
        [] ++ (vacant (slotsOf e.1 e.2.slotCount services)).map (e.1, ·) :=
      List.flatMap_cons.trans (List.append_nil _)
    rw [hpodSlots, hserviceSlots]
    refine ⟨hsupplies₁.trans hsupplies₂, ?_⟩
    -- Pods and services are announced under different keys.
    have hboth := hannounced₁.trans hannounced₂ fun key => by
      by_cases hkey : key = .of job.key e.1 .pods
      · subst hkey
        exact .inr (if_neg hkind.symm)
      · exact .inl (if_neg hkey)
    refine ⟨hboth.timeout, fun key => ?_⟩
    rw [hboth.records, Job.announced, List.append_nil, List.nil_append, Job.countP_slots, Job.countP_slots]

end Types

/-! ## All replica types -/

section Others

variable {α : Type} [HasMetadata α] {objects : List α} {e : String × ReplicaSpec}
  {rest : List (String × ReplicaSpec)}

/-- The vacancies of other types are expected under other keys. -/
theorem lowercase_ne_of_mem_vacancies (hothers : ∀ e' ∈ rest, Text.lowercase e'.1 ≠ Text.lowercase e.1)
    {s : String × Nat} (hs : s ∈ vacancies objects rest) : Text.lowercase s.1 ≠ Text.lowercase e.1 := by
  obtain ⟨e', he', htype, -⟩ := mem_vacancies.1 hs
  rw [htype]
  exact hothers e' he'

/-- A vacancy of one type is of that type. -/
theorem eq_of_mem_vacancies_singleton {s : String × Nat} (hs : s ∈ vacancies objects [e]) : s.1 = e.1 := by
  obtain ⟨e', he', htype, -⟩ := mem_vacancies.1 hs
  rw [htype, List.mem_singleton.1 he']

/-- What was supplied to one replica type leaves the free addresses of the others free. -/
theorem free_of_supplied_vacancies {objects' objects₁ : Dict Address α} (hslash : Slashless job.name)
    (hvalid : job.spec.fault? = none) (hentries : e :: rest ⊆ job.spec.replicaSpecs.entries)
    (hothers : ∀ e' ∈ rest, Text.lowercase e'.1 ≠ Text.lowercase e.1)
    (h : job.Supplied (vacancies objects [e]) objects' objects₁)
    (hfree : ∀ s ∈ vacancies objects rest, objects'.get? (job.slotAddress s) = none) :
    ∀ s ∈ vacancies objects rest, objects₁.get? (job.slotAddress s) = none := by
  intro s hs
  have htype : ∀ {entries : List (String × ReplicaSpec)}, entries ⊆ job.spec.replicaSpecs.entries →
      ∀ s ∈ vacancies objects entries, IsReplicaType s.1 := by
    intro entries hsub s hs
    obtain ⟨e', he', htype, -⟩ := mem_vacancies.1 hs
    exact htype ▸ Job.isReplicaType_of_acceptable hvalid (hsub he')
  rw [h.kept _ fun hmem => ?_]
  · exact hfree s hs
  · obtain ⟨s', hs', heq⟩ := List.mem_map.1 hmem
    -- Equal addresses are equal slots, and the types that follow differ from the first.
    have hslot := Job.slotAddress_inj hslash
      (htype (fun e' he' => hentries (List.mem_singleton.1 he' ▸ List.mem_cons_self)) s' hs')
      (htype (fun e' he' => hentries (List.mem_cons_of_mem _ he')) s hs) heq
    refine lowercase_ne_of_mem_vacancies hothers hs ?_
    rw [← hslot, eq_of_mem_vacancies_singleton hs']

end Others

/-- One replica type after the other gets what it lacks. What the earlier ones got stands at other addresses and
is announced under other keys, so the later ones find everything as it was at the start. -/
theorem yields_reconcileReplicas_of_free (now : Timestamp) (pods : List Pod) (services : List Service)
    (hjob : job.Serviceable) (hslash : Slashless job.name) (hvalid : job.spec.fault? = none) :
    ∀ (entries : List (String × ReplicaSpec)) (status : JobStatus) (c : Controller MemoryStore),
      entries ⊆ job.spec.replicaSpecs.entries →
      (entries.Pairwise fun e e' => Text.lowercase e'.1 ≠ Text.lowercase e.1) → c.store.failures = [] →
      (∀ e ∈ entries, ∀ kind, c.expectations.satisfied (.of job.key e.1 kind) now = true) →
      (∀ e ∈ entries, (podPlan e.1 e.2 pods).restarts = []) →
      (∀ s ∈ vacancies pods entries, c.store.pods.get? (job.slotAddress s) = none) →
      (∀ s ∈ vacancies services entries, c.store.services.get? (job.slotAddress s) = none) →
      Yields (reconcileReplicas now job pods services entries status) c
        (fun _ c' => Supplies job (vacancies pods entries) (vacancies services entries) c c' ∧
          c.expectations.Announced now (job.announced (vacancies pods entries) (vacancies services entries))
            c'.expectations)
        fun _ _ => False
  | [], _, c, _, _, _, _, _, _, _ => ⟨.refl job c, .refl now _⟩
  | e :: rest, status, c, hentries, hdistinct, hfailures, hsatisfied, hrestarts, hpods, hservices => by
    obtain ⟨hothers, hrest⟩ := List.pairwise_cons.1 hdistinct
    obtain ⟨hsatisfied, hsatisfieds⟩ := List.forall_mem_cons.1 hsatisfied
    obtain ⟨hrestarts, hrestartss⟩ := List.forall_mem_cons.1 hrestarts
    rw [vacancies_cons, List.forall_mem_append] at hpods hservices
    unfold reconcileReplicas
    rw [yields_bind]
    refine (yields_type_of_free hjob hslash hvalid (hentries List.mem_cons_self) hfailures hsatisfied hrestarts
      hpods.1 hservices.1).mono (fun _ c₁ h₁ => ?_) fun _ _ => False.elim
    rw [yields_bind]
    refine h₁.mono (fun _ c₂ h₂ => ?_) fun _ _ => False.elim
    obtain ⟨hsupplies, hannounced⟩ := h₂
    rw [yields_bind]
    refine (yields_reconcileReplicas_of_free now pods services hjob hslash hvalid rest _ c₂
      (fun e' he' => hentries (List.mem_cons_of_mem _ he')) hrest (hsupplies.failures.trans hfailures) ?_
      hrestartss (free_of_supplied_vacancies hslash hvalid hentries hothers hsupplies.pods hpods.2)
      (free_of_supplied_vacancies hslash hvalid hentries hothers hsupplies.services hservices.2)).mono
      (fun _ c₃ h₃ => ?_) fun _ _ => id
    · intro e' he' kind
      rw [hannounced.satisfied_eq]
      · exact hsatisfieds e' he' kind
      · refine Job.announced_eq_zero (fun s hs => ?_) fun s hs => ?_
        all_goals
          rw [eq_of_mem_vacancies_singleton hs]
          exact (hothers e' he').symm
    · obtain ⟨hsupplies₃, hannounced₃⟩ := h₃
      rw [vacancies_cons e rest pods, vacancies_cons e rest services]
      refine ⟨hsupplies.trans hsupplies₃, ?_⟩
      -- Under a key nothing is announced for this type or nothing for the others.
      have hall := hannounced.trans hannounced₃ fun key => by
        by_cases hkey : key.replicaType = Text.lowercase e.1
        · refine .inr (Job.announced_eq_zero (fun s hs => ?_) fun s hs => ?_)
          all_goals
            rw [hkey]
            exact lowercase_ne_of_mem_vacancies hothers hs
        · refine .inl (Job.announced_eq_zero (fun s hs => ?_) fun s hs => ?_)
          all_goals
            rw [eq_of_mem_vacancies_singleton hs]
            exact Ne.symm hkey
      refine ⟨hall.timeout, fun key => ?_⟩
      rw [hall.records, Job.announced_append]

end Controller

end TrainingJobs
