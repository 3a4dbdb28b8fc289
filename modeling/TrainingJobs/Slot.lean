/-
Slots: the places that a replica type has, and what stands in them.

A replica type with `n` replicas has the slots `0 … n-1`. Objects are sorted into them by their labels alone:
the replica type has to be the lowercase one, and the index has to be a numeral. What fits no slot is left
out, and a slot may hold several objects, of which the first listed counts.

The slots are there before the first object is looked at, and each object goes to the end of its own. Looking up a
slot that is not there would be a fault, for which there is no answer; no label can lead to it.
-/
import TrainingJobs.Naming
import TrainingJobs.Text.Numeral

set_option autoImplicit false

namespace TrainingJobs

variable {α : Type} [HasMetadata α]

/-- The objects of one replica type, in the order of the list (`filter_for_replica_type`). -/
def ofReplicaType (replicaType : String) (objects : List α) : List α :=
  objects.filter fun o => labelOf? o Label.replicaType == some (Text.lowercase replicaType)

/-- The index that an object is labelled with, if it is a numeral. -/
def slotIndex? (object : α) : Option Nat := (labelOf? object Label.replicaIndex).bind Text.readWord?

/-! ## Sorting -/

omit [HasMetadata α] in
/-- The slots with the object at the end of one of them, unless there is no slot of that index. -/
def putInto? (index : Nat) (object : α) (slots : List (List α)) : Option (List (List α)) :=
  slots[index]?.map fun slot => slots.set index (slot ++ [object])

/-- The slots with all objects put into them, in the order of the list, whose index is below the count. -/
def sortInto? (count : Nat) : List α → List (List α) → Option (List (List α))
  | [], slots => some slots
  | object :: rest, slots =>
    match slotIndex? object with
    | some index =>
      if index < count then (putInto? index object slots).bind (sortInto? count rest)
      else sortInto? count rest slots
    | none => sortInto? count rest slots

/-- Sorting finds every slot that it looks up, and adds to each the objects of its index. -/
theorem exists_sortInto? {count : Nat} (objects : List α) {slots : List (List α)} (h : slots.length = count) :
    ∃ sorted, sortInto? count objects slots = some sorted ∧
      ∀ i : Nat, sorted[i]? = slots[i]?.map (· ++ objects.filter fun o => slotIndex? o == some i) := by
  induction objects generalizing slots with
  | nil =>
    refine ⟨slots, rfl, ?_⟩
    intro i
    simp
  | cons object rest ih =>
    rw [sortInto?]
    rcases hindex : slotIndex? object with _ | index
    · obtain ⟨sorted, hsorted, hslots⟩ := ih h
      refine ⟨sorted, hsorted, ?_⟩
      intro i
      simp [hslots, hindex]
    · simp only
      by_cases hlt : index < count
      · have hthere : index < slots.length := by omega
        rw [if_pos hlt, putInto?, List.getElem?_eq_getElem hthere, Option.map_some, Option.bind_some]
        obtain ⟨sorted, hsorted, hslots⟩ := ih ((List.length_set ..).trans h)
        refine ⟨sorted, hsorted, ?_⟩
        intro i
        rw [hslots, List.getElem?_set]
        -- The slot of the object has it at its end, before what is still to come; the others are as they were.
        by_cases hi : index = i
        · subst hi
          simp [hindex, hthere]
        · simp [hindex, hi]
      · rw [if_neg hlt]
        obtain ⟨sorted, hsorted, hslots⟩ := ih h
        refine ⟨sorted, hsorted, ?_⟩
        intro i
        rw [hslots]
        by_cases hi : index = i
        · subst hi
          rw [List.getElem?_eq_none (by omega), Option.map_none, Option.map_none]
        · simp [hindex, hi]

theorem isSome_sortInto? {count : Nat} (objects : List α) {slots : List (List α)} (h : slots.length = count) :
    (sortInto? count objects slots).isSome = true := by
  obtain ⟨sorted, hsorted, -⟩ := exists_sortInto? objects h
  rw [hsorted]
  rfl

/-- The slots `0 … count-1`, each with the objects of its index, in the order of the list (`slices`). -/
def slots (count : Nat) (objects : List α) : List (List α) :=
  (sortInto? count objects (List.replicate count [])).get (isSome_sortInto? objects List.length_replicate)

/-- The slots of one replica type. -/
def slotsOf (replicaType : String) (count : Nat) (objects : List α) : List (List α) :=
  slots count (ofReplicaType replicaType objects)

theorem sortInto?_replicate (count : Nat) (objects : List α) :
    sortInto? count objects (List.replicate count []) = some (slots count objects) :=
  (Option.some_get _).symm

/-- Each slot is the part of the list with its index. -/
theorem slots_eq (count : Nat) (objects : List α) :
    slots count objects = (List.range count).map fun i => objects.filter fun o => slotIndex? o == some i := by
  obtain ⟨sorted, hsorted, hslots⟩ := exists_sortInto? objects (List.length_replicate (n := count) (a := []))
  rw [sortInto?_replicate, Option.some.injEq] at hsorted
  subst hsorted
  refine List.ext_getElem? fun i => ?_
  rw [hslots, List.getElem?_map]
  by_cases hi : i < count
  · rw [List.getElem?_replicate_of_lt hi, List.getElem?_range hi, Option.map_some, Option.map_some, List.nil_append]
  · rw [List.getElem?_eq_none (by simp; omega), List.getElem?_eq_none (by simp; omega), Option.map_none, Option.map_none]

theorem length_slotsOf (replicaType : String) (count : Nat) (objects : List α) :
    (slotsOf replicaType count objects).length = count := by
  rw [slotsOf, slots_eq, List.length_map, List.length_range]

end TrainingJobs
