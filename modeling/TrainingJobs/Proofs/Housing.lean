/-
What stands where.

Pods and services are deleted by address alone, so it matters that whatever stands at the address of a slot
was made for that slot. In a store that only the controller fills it was: every object is `AtHome`, it stands
at the address that its marks tell. Then a job that lists its pods by label finds pods at the addresses of its
own slots and nowhere else (`exists_slot_of_listed`), and two jobs have no address in common.
-/
import TrainingJobs.Proofs.Recognition
import TrainingJobs.Proofs.Requests

set_option autoImplicit false

namespace TrainingJobs

/-- The object was made for a slot of some job, and stands at the address of that slot. -/
def Metadata.AtHome (x : Address) (m : Metadata) : Prop :=
  ∃ jobName replicaType index, Slashless jobName ∧ IsReplicaType replicaType ∧
    x.name = slotName jobName replicaType index ∧ m.MadeFor x.ns jobName replicaType index

/-- Every object of a collection is at home. -/
def Housed {α : Type} [HasMetadata α] (objects : Dict Address α) : Prop :=
  ∀ x o, objects.get? x = some o → (HasMetadata.metadata o).AtHome x

/-- A collection of a store has metadata of its own for every object. -/
class LawfulMetadata (α : Type) [HasMetadata α] : Prop where
  metadata_withMetadata : ∀ (o : α) (m : Metadata), HasMetadata.metadata (HasMetadata.withMetadata o m) = m

instance : LawfulMetadata Pod := ⟨fun _ _ => rfl⟩

instance : LawfulMetadata Service := ⟨fun _ _ => rfl⟩

instance : LawfulMetadata PodGroup := ⟨fun _ _ => rfl⟩

namespace Metadata

variable {x : Address} {m m' : Metadata}

/-- An object stands at home by its marks alone. -/
theorem AtHome.of_sameMarks (h : m.AtHome x) (hm : m.SameMarks m') : m'.AtHome x := by
  obtain ⟨jobName, replicaType, index, hjob, htype, hname, hmade⟩ := h
  exact ⟨jobName, replicaType, index, hjob, htype, hname, hmade.of_sameMarks hm⟩

/-- What is at home stands where it says. -/
theorem AtHome.address_eq (h : m.AtHome x) : m.address = x := by
  obtain ⟨jobName, replicaType, index, -, -, hname, hmade⟩ := h
  unfold address
  rw [hmade.place, hmade.name, ← hname, Option.getD_some]

/-- What has the labels of a job was made for a slot of that job. -/
theorem AtHome.of_selected {jobName : String} (h : m.AtHome x) (hjob : Slashless jobName)
    (hlabels : Labels.selectedBy m.labelsOrEmpty (Labels.ofJob Job.group jobName) = true) :
    ∃ replicaType index, IsReplicaType replicaType ∧ x.name = slotName jobName replicaType index ∧
      m.MadeFor x.ns jobName replicaType index := by
  obtain ⟨madeFor, replicaType, index, hmadeFor, htype, hname, hmade⟩ := h
  have hlabel : m.label? Label.jobName = some (dashed jobName) := by
    refine Labels.selectedBy_iff.1 hlabels _ _ ?_
    rw [Labels.get?_ofJob, if_pos rfl]
  rw [hmade.label_jobName, Option.some.injEq, dashed_eq_self hmadeFor, dashed_eq_self hjob] at hlabel
  subst hlabel
  exact ⟨replicaType, index, htype, hname, hmade⟩

end Metadata

section Housed

variable {α : Type} [HasMetadata α] {objects : Dict Address α} {x : Address} {o : α}

theorem housed_empty : Housed (∅ : Dict Address α) := fun _ _ h => absurd h (by simp [EmptyCollection.emptyCollection])

/-- Objects stay at home when another is taken away. -/
theorem Housed.erase (h : Housed objects) (x : Address) : Housed (objects.erase x) :=
  fun y o ho => h y o (Dict.get?_of_erase ho)

/-- And when one is put in at its home. -/
theorem Housed.insert (h : Housed objects) (hnew : (HasMetadata.metadata o).AtHome x) :
    Housed (objects.insert x o) := by
  intro y o' ho'
  by_cases hy : y = x
  · subst hy
    rw [Dict.get?_insert_self, Option.some.injEq] at ho'
    exact ho' ▸ hnew
  · rw [Dict.get?_insert_ne _ _ hy] at ho'
    exact h y o' ho'

/-- What is listed by label stands somewhere in the namespace. -/
theorem exists_of_mem_select {ns : String} {selector : Labels} (h : o ∈ MemoryStore.select objects ns selector) :
    ∃ x, objects.get? x = some o ∧ x.ns = ns ∧
      Labels.selectedBy (HasMetadata.metadata o).labelsOrEmpty selector = true := by
  unfold MemoryStore.select Dict.values Dict.filter at h
  obtain ⟨⟨x, o'⟩, hentry, rfl⟩ := List.mem_map.1 h
  obtain ⟨hentry, hkept⟩ := List.mem_filter.1 hentry
  obtain ⟨hns, hlabels⟩ := Bool.and_eq_true_iff.1 hkept
  exact ⟨x, Dict.get?_eq_some_iff.2 hentry, beq_iff_eq.1 hns, hlabels⟩

/-- **What a job lists stands at the address of one of its slots.** -/
theorem Housed.exists_slot_of_listed (h : Housed objects) {ns jobName : String} (hjob : Slashless jobName)
    (ho : o ∈ MemoryStore.select objects ns (Labels.ofJob Job.group jobName)) :
    ∃ replicaType index, IsReplicaType replicaType ∧ nameOf o = slotName jobName replicaType index ∧
      (HasMetadata.metadata o).MadeFor ns jobName replicaType index := by
  obtain ⟨x, hx, rfl, hlabels⟩ := exists_of_mem_select ho
  obtain ⟨replicaType, index, htype, -, hmade⟩ := (h x o hx).of_selected hjob hlabels
  exact ⟨replicaType, index, htype, hmade.name, hmade⟩

end Housed

/-- What is made for a slot of a job is at home there. -/
theorem Metadata.MadeFor.atHome {ns jobName replicaType : String} {index : Nat} {m : Metadata}
    (h : m.MadeFor ns jobName replicaType index) (hjob : Slashless jobName) (htype : IsReplicaType replicaType) :
    m.AtHome ⟨ns, slotName jobName replicaType index⟩ :=
  ⟨jobName, replicaType, index, hjob, htype, rfl, h⟩

namespace MemoryStore

/-- An object that says where it is to be placed is stored with the same marks. -/
theorem sameMarks_asPlaced {α : Type} [HasMetadata α] [LawfulMetadata α] (s : MemoryStore) {ns : String}
    {o : α} (hns : (HasMetadata.metadata o).ns = some ns) :
    (HasMetadata.metadata o).SameMarks (HasMetadata.metadata (s.asPlaced ns o)) := by
  unfold asPlaced stamp
  simp only [LawfulMetadata.metadata_withMetadata]
  rw [← hns]
  exact sameMarks_stamped _ _ _

end MemoryStore

/-- Where everything is at home, what is made for a slot is put in its place. -/
theorem Housed.insert_asPlaced {α : Type} [HasMetadata α] [LawfulMetadata α] {objects : Dict Address α}
    (h : Housed objects) (s : MemoryStore) {ns jobName replicaType : String} {index : Nat} {o : α}
    (hjob : Slashless jobName) (htype : IsReplicaType replicaType)
    (hmade : (HasMetadata.metadata o).MadeFor ns jobName replicaType index) :
    Housed (objects.insert ⟨ns, nameOf o⟩ (s.asPlaced ns o)) := by
  have hname : nameOf o = slotName jobName replicaType index := hmade.name
  rw [hname]
  exact h.insert ((hmade.atHome hjob htype).of_sameMarks (s.sameMarks_asPlaced hmade.place))

/-- What stands at the address of a slot was made for that slot. -/
theorem Metadata.AtHome.madeFor {ns jobName replicaType : String} {index : Nat} {m : Metadata}
    (h : m.AtHome ⟨ns, slotName jobName replicaType index⟩) (hjob : Slashless jobName)
    (htype : IsReplicaType replicaType) : m.MadeFor ns jobName replicaType index := by
  obtain ⟨jobName', replicaType', index', hjob', htype', hname, hmade⟩ := h
  obtain ⟨rfl, rfl, rfl⟩ := slotName_inj hjob hjob' htype htype' hname
  exact hmade

end TrainingJobs
