/-
Slots and what stands in them.

A job finds its pods by label and sorts them into slots by label, but it creates them by name. The two views
agree where the pods of the job are arranged: each carries the labels of the slot at whose address it stands,
and nothing else has taken such an address (`Job.Arranged`). Then a slot holds exactly what stands at its
address (`Arranged.slot_eq`), so the slots that a plan finds empty are the free addresses.
-/
import TrainingJobs.Proofs.Housing
import TrainingJobs.Proofs.Unfailing

set_option autoImplicit false

namespace TrainingJobs

/-! ## Empty slots -/

section Vacant

variable {α : Type} {objects : List (List α)} {index : Nat}

/-- The vacant slots, without the detour over options. -/
theorem vacant_eq_map (objects : List (List α)) :
    vacant objects = (objects.zipIdx.filter fun s => s.1.isEmpty).map (·.2) := by
  unfold vacant
  induction objects.zipIdx with
  | nil => rfl
  | cons s rest ih =>
    rw [List.filterMap_cons, ih, List.filter_cons]
    by_cases h : s.1.isEmpty
    · rw [if_pos h, if_pos h, List.map_cons]
    · rw [if_neg h, if_neg h]

/-- The empty slots are told once each. -/
theorem nodup_vacant (objects : List (List α)) : (vacant objects).Nodup := by
  rw [vacant_eq_map]
  have hall : (objects.zipIdx.map (·.2)).Nodup := by
    rw [List.zipIdx_map_snd]
    exact List.nodup_range'
  exact hall.sublist (List.filter_sublist.map _)

/-- A slot is vacant if it is there and nothing stands in it. -/
theorem mem_vacant : index ∈ vacant objects ↔ objects[index]? = some [] := by
  rw [vacant_eq_map, List.mem_map]
  constructor
  · rintro ⟨⟨slot, i⟩, hslot, rfl⟩
    obtain ⟨hmem, hempty⟩ := List.mem_filter.1 hslot
    rw [List.mk_mem_zipIdx_iff_getElem?] at hmem
    rw [hmem]
    exact congrArg some (List.isEmpty_iff.1 hempty)
  · intro h
    exact ⟨([], index), List.mem_filter.2 ⟨List.mk_mem_zipIdx_iff_getElem?.2 h, rfl⟩, rfl⟩

end Vacant

/-- The values of a part of a map that has at most one key. -/
theorem Dict.values_of_single_key {κ α : Type} [Ord κ] [Std.TransOrd κ] [Std.LawfulEqOrd κ] {d : Dict κ α}
    {k : κ} (h : ∀ e ∈ d.entries, e.1 = k) : d.values = (d.get? k).toList := by
  obtain ⟨entries, hsorted⟩ := d
  unfold values get?
  simp only at h ⊢
  match entries, hsorted, h with
  | [], _, _ => rfl
  | [e], _, h =>
    have hkey : compare k e.1 = .eq := Std.LawfulEqCmp.compare_eq_iff_eq.2 (h e List.mem_cons_self).symm
    rw [lookup, if_pos hkey]
    rfl
  | e :: e' :: rest, hsorted, h =>
    -- Two entries would have one key, but the keys increase.
    have hlt := (List.pairwise_cons.1 hsorted).1 e' List.mem_cons_self
    rw [h e List.mem_cons_self, h e' (List.mem_cons_of_mem _ List.mem_cons_self), Std.ReflOrd.compare_self] at hlt
    exact absurd hlt (by decide)

/-! ## Arranged objects -/

namespace Job

variable {α : Type} [HasMetadata α] {job : Job} {objects objects' : Dict Address α}

/-- The address of a slot, given by replica type and index. -/
def slotAddress (job : Job) (s : String × Nat) : Address := ⟨job.ns, slotName job.name s.1 s.2⟩

/-- The objects of a collection that the job lists as its own. -/
def listed (job : Job) (objects : Dict Address α) : List α :=
  MemoryStore.select objects job.ns (Labels.ofJob group job.name)

/-- The job lists the object at `x` and sorts it into this slot. -/
def sortsInto (job : Job) (replicaType : String) (index : Nat) (x : Address) (o : α) : Bool :=
  ((x.ns == job.ns && Labels.selectedBy (HasMetadata.metadata o).labelsOrEmpty (Labels.ofJob group job.name)) &&
    labelOf? o Label.replicaType == some (Text.lowercase replicaType)) && slotIndex? o == some index

/-- A slot is the part of the collection that is sorted into it. -/
theorem slotsOf_listed (job : Job) (objects : Dict Address α) (replicaType : String) {count index : Nat}
    (hindex : index < count) :
    (slotsOf replicaType count (job.listed objects))[index]? =
      some (objects.filter (job.sortsInto replicaType index)).values := by
  rw [slotsOf, slots_eq, List.getElem?_map, List.getElem?_range hindex, Option.map_some]
  unfold ofReplicaType listed MemoryStore.select Dict.values Dict.filter
  simp only [List.filter_map, List.filter_filter, Option.some.injEq]
  refine congrArg (List.map _) (List.filter_congr fun x _ => ?_)
  simp only [Function.comp, sortsInto, Bool.and_comm]

/-- An object with the labels of a slot is sorted into it. -/
theorem reads_of_labels {o : α} {replicaType : String} {index : Nat} (hindex : index < 2 ^ 64)
    (h : Labels.selectedBy (HasMetadata.metadata o).labelsOrEmpty
      (Labels.ofSlot group job.name replicaType index) = true) :
    labelOf? o Label.replicaType = some (Text.lowercase replicaType) ∧ slotIndex? o = some index := by
  have hread := Labels.selectedBy_iff.1 h
  refine ⟨hread _ _ ?_, ?_⟩
  · rw [Labels.get?_ofSlot, if_neg (by decide), if_pos rfl]
  · have hlabel : labelOf? o Label.replicaIndex = some (toString index) := by
      refine hread _ _ ?_
      rw [Labels.get?_ofSlot, if_pos rfl]
    unfold slotIndex?
    rw [hlabel, Option.bind_some, Text.readWord?_toString hindex]

/-- What the job lists stands at the address of a slot whose labels it has, and whatever stands at the address
of a slot is listed by the job. -/
structure Arranged (job : Job) (objects : Dict Address α) : Prop where
  own : ∀ x o, objects.get? x = some o → x.ns = job.ns →
    Labels.selectedBy (HasMetadata.metadata o).labelsOrEmpty (Labels.ofJob group job.name) = true →
      ∃ e ∈ job.spec.replicaSpecs.entries, ∃ index < e.2.slotCount, x = job.slotAddress (e.1, index) ∧
        Labels.selectedBy (HasMetadata.metadata o).labelsOrEmpty (Labels.ofSlot group job.name e.1 index) = true
  free : ∀ e ∈ job.spec.replicaSpecs.entries, ∀ index < e.2.slotCount, ∀ o,
    objects.get? (job.slotAddress (e.1, index)) = some o →
      Labels.selectedBy (HasMetadata.metadata o).labelsOrEmpty (Labels.ofJob group job.name) = true

/-- Two slots with one address are one slot. -/
theorem slotAddress_inj (hjob : Slashless job.name) {s s' : String × Nat} (hs : IsReplicaType s.1)
    (hs' : IsReplicaType s'.1) (h : job.slotAddress s = job.slotAddress s') : s = s' := by
  obtain ⟨-, htype, hindex⟩ := slotName_inj hjob hjob hs hs' (congrArg Address.name h)
  exact Prod.ext htype hindex

section Arranged

variable (hjob : Slashless job.name) (hvalid : job.spec.fault? = none)
include hjob hvalid

/-- What stands at the address of a slot has the labels of the slot. -/
theorem Arranged.labels (h : job.Arranged objects) {e : String × ReplicaSpec}
    (he : e ∈ job.spec.replicaSpecs.entries) {index : Nat} (hindex : index < e.2.slotCount) {o : α}
    (ho : objects.get? (job.slotAddress (e.1, index)) = some o) :
    Labels.selectedBy (HasMetadata.metadata o).labelsOrEmpty (Labels.ofSlot group job.name e.1 index) = true := by
  obtain ⟨e', he', index', -, haddress, hlabels⟩ := h.own _ o ho rfl (h.free e he index hindex o ho)
  have hslot := slotAddress_inj hjob (isReplicaType_of_acceptable hvalid he)
    (isReplicaType_of_acceptable hvalid he') haddress
  rw [Prod.mk.injEq] at hslot
  rw [hslot.1, hslot.2]
  exact hlabels

/-- **A slot holds what stands at its address.** -/
theorem Arranged.slot_eq (h : job.Arranged objects) {e : String × ReplicaSpec}
    (he : e ∈ job.spec.replicaSpecs.entries) {index : Nat} (hindex : index < e.2.slotCount) :
    (slotsOf e.1 e.2.slotCount (job.listed objects))[index]? =
      some (objects.get? (job.slotAddress (e.1, index))).toList := by
  have hword : ∀ e ∈ job.spec.replicaSpecs.entries, ∀ i < e.2.slotCount, i < 2 ^ 64 := by
    intro e he i hi
    have hslots := e.2.slotCount_lt
    omega
  -- What is in the slot stands at its address, since its labels tell the address.
  have hsingle : ∀ x ∈ (objects.filter (job.sortsInto e.1 index)).entries,
      x.1 = job.slotAddress (e.1, index) := by
    rintro ⟨x, o⟩ hentry
    obtain ⟨hentry, hin⟩ := List.mem_filter.1 hentry
    simp only [sortsInto, Bool.and_eq_true, beq_iff_eq] at hin
    obtain ⟨⟨⟨hns, hlabels⟩, htype⟩, hnumber⟩ := hin
    obtain ⟨e', he', index', hindex', haddress, hslot⟩ := h.own x o (Dict.get?_eq_some_iff.2 hentry) hns hlabels
    obtain ⟨htype', hnumber'⟩ := reads_of_labels (hword e' he' index' hindex') hslot
    rw [htype, Option.some.injEq] at htype'
    rw [hnumber, Option.some.injEq] at hnumber'
    have hsame := lowercase_inj (isReplicaType_of_acceptable hvalid he) (isReplicaType_of_acceptable hvalid he')
      htype'
    rw [haddress, hnumber', hsame]
  rw [slotsOf_listed job objects e.1 hindex, Dict.values_of_single_key hsingle, Dict.get?_filter]
  -- What stands at the address has the labels of the slot, so it is in the slot.
  rcases ho : objects.get? (job.slotAddress (e.1, index)) with _ | o
  · rfl
  · obtain ⟨htype, hnumber⟩ := reads_of_labels (hword e he index hindex) (h.labels hjob hvalid he hindex ho)
    have hin : job.sortsInto e.1 index (job.slotAddress (e.1, index)) o = true := by
      simp only [sortsInto, Bool.and_eq_true, beq_iff_eq]
      exact ⟨⟨⟨rfl, h.free e he index hindex o ho⟩, htype⟩, hnumber⟩
    rw [Option.filter_some, if_pos hin]

/-- The empty slots are those with a free address. -/
theorem Arranged.mem_vacant_iff (h : job.Arranged objects) {e : String × ReplicaSpec}
    (he : e ∈ job.spec.replicaSpecs.entries) {index : Nat} :
    index ∈ vacant (slotsOf e.1 e.2.slotCount (job.listed objects)) ↔
      index < e.2.slotCount ∧ objects.get? (job.slotAddress (e.1, index)) = none := by
  rw [mem_vacant]
  by_cases hindex : index < e.2.slotCount
  · rw [h.slot_eq hjob hvalid he hindex, Option.some.injEq, Option.toList_eq_nil_iff, and_iff_right hindex]
  · refine iff_of_false (fun hslot => hindex ?_) fun hboth => hindex hboth.1
    have hlt := (List.getElem?_eq_some_iff.1 hslot).1
    rwa [length_slotsOf] at hlt

end Arranged

end Job

end TrainingJobs
