/-
Which objects a slot holds.

The labels of an object can be edited by anyone, so every text has to be reckoned with. What a label tells is said
here without the way it is read: a text is a numeral of a number (`Text.NumeralOf`) if it has digits and nothing else
behind at most one plus sign, and the number fits into a word. An object fits a slot if it is labelled with the
replica type in lower case and with a numeral of the index (`FitsSlot`). **The slots are exactly the objects that
fit**, each in its one slot and in the order of the list, and sorting them never looks for a slot that is not there
(`slots_partition_exact`).
-/
import Mathlib.Data.List.Perm.Basic
import TrainingJobs.Object.Pod
import TrainingJobs.Proofs.Names

set_option autoImplicit false

namespace TrainingJobs

/-! ## Numerals -/

namespace Text

/-- The text is a numeral of the number: it has digits, at least one, behind at most one plus sign, and the number that
they stand for fits into a word. -/
def NumeralOf (s : String) (n : Nat) : Prop :=
  ∃ digits : List Char, (s.toList = digits ∨ s.toList = '+' :: digits) ∧ digits ≠ [] ∧
    (∀ c ∈ digits, c.isDigit = true) ∧ Nat.ofDigitChars 10 digits 0 = n ∧ n < 2 ^ 64

/-- What is no digit has no value as one. -/
theorem digitValue?_of_not_isDigit {c : Char} (h : c.isDigit = false) : digitValue? c = none := by
  unfold digitValue?
  rw [h]
  rfl

/-- What can be read as digits are digits. -/
theorem readDigits?_eq_some_iff {l : List Char} {acc n : Nat} :
    readDigits? acc l = some n ↔ (∀ c ∈ l, c.isDigit = true) ∧ Nat.ofDigitChars 10 l acc = n := by
  constructor
  · intro h
    have hdigits : ∀ c ∈ l, c.isDigit = true := by
      -- The reader gives up at the first character that is no digit.
      induction l generalizing acc with
      | nil =>
        intro c hc
        exact absurd hc List.not_mem_nil
      | cons c rest ih =>
        rw [readDigits?] at h
        by_cases hc : c.isDigit = true
        · rw [digitValue?_of_isDigit hc] at h
          exact List.forall_mem_cons.2 ⟨hc, ih h⟩
        · rw [digitValue?_of_not_isDigit (Bool.eq_false_iff.2 hc)] at h
          exact absurd h (by simp)
    rw [readDigits?_of_digits hdigits, Option.some.injEq] at h
    exact ⟨hdigits, h⟩
  · rintro ⟨hdigits, hn⟩
    rw [readDigits?_of_digits hdigits, hn]

/-- A text can be read as a number just if it has digits and nothing else behind at most one plus sign. -/
theorem readNat?_eq_some_iff {l : List Char} {n : Nat} :
    readNat? l = some n ↔ ∃ digits, (l = digits ∨ l = '+' :: digits) ∧ digits ≠ [] ∧
      (∀ c ∈ digits, c.isDigit = true) ∧ Nat.ofDigitChars 10 digits 0 = n := by
  have hplus : ('+').isDigit = false := by decide
  constructor
  · intro h
    unfold readNat? at h
    split at h
    · exact absurd h (by simp)
    · exact absurd h (by simp)
    · next rest hrest =>
      exact ⟨rest, .inr rfl, by simpa using hrest, readDigits?_eq_some_iff.1 h⟩
    · next hnil _ _ =>
      exact ⟨l, .inl rfl, by simpa using hnil, readDigits?_eq_some_iff.1 h⟩
  · rintro ⟨digits, hl, hsome, hdigits⟩
    have hread := readDigits?_eq_some_iff.2 hdigits
    unfold readNat?
    rcases hl with rfl | rfl
    · split
      · exact absurd rfl hsome
      -- Digits do not begin with a sign.
      · exact absurd (hdigits.1 '+' List.mem_cons_self) (by simp [hplus])
      · exact absurd (hdigits.1 '+' List.mem_cons_self) (by simp [hplus])
      · exact hread
    · cases digits with
      | nil => exact absurd rfl hsome
      | cons c rest => exact hread

/-- **What is read as a number** are the numerals of it: digits, with a plus in front if one likes, of a number that
fits into 64 bits. -/
theorem readWord?_eq_some_iff {s : String} {n : Nat} : readWord? s = some n ↔ NumeralOf s n := by
  unfold readWord? readBelow? NumeralOf
  simp only [Option.bind_eq_some_iff, Option.ite_none_right_eq_some, Option.some.injEq]
  constructor
  · rintro ⟨m, hread, hlt, rfl⟩
    obtain ⟨digits, hs, hsome, hdigits, hm⟩ := readNat?_eq_some_iff.1 hread
    exact ⟨digits, hs, hsome, hdigits, hm, hlt⟩
  · rintro ⟨digits, hs, hsome, hdigits, hn, hlt⟩
    exact ⟨n, readNat?_eq_some_iff.2 ⟨digits, hs, hsome, hdigits, hn⟩, hlt, rfl⟩

end Text

/-! ## Fitting a slot -/

section Fitting

variable {α : Type} [HasMetadata α] {replicaType : String} {count index index' : Nat} {o : α}

/-- By its labels the object belongs in this slot of the replica type. -/
def FitsSlot (replicaType : String) (index : Nat) (o : α) : Prop :=
  labelOf? o Label.replicaType = some (Text.lowercase replicaType) ∧
    ∃ numeral, labelOf? o Label.replicaIndex = some numeral ∧ Text.NumeralOf numeral index

/-- An object has an index if its label is a numeral of it. -/
theorem slotIndex?_eq_some_iff : slotIndex? o = some index ↔
    ∃ numeral, labelOf? o Label.replicaIndex = some numeral ∧ Text.NumeralOf numeral index := by
  unfold slotIndex?
  simp only [Option.bind_eq_some_iff, Text.readWord?_eq_some_iff]

/-- An object fits a slot by two labels. -/
theorem fitsSlot_iff : FitsSlot replicaType index o ↔
    labelOf? o Label.replicaType = some (Text.lowercase replicaType) ∧ slotIndex? o = some index := by
  rw [slotIndex?_eq_some_iff, FitsSlot]

instance (replicaType : String) (index : Nat) (o : α) : Decidable (FitsSlot replicaType index o) :=
  decidable_of_iff _ fitsSlot_iff.symm

/-- No object fits two slots, since a numeral is the numeral of one number. -/
theorem FitsSlot.index_unique (h : FitsSlot replicaType index o) (h' : FitsSlot replicaType index' o) :
    index = index' := by
  have hread := (fitsSlot_iff.1 h).2
  rw [(fitsSlot_iff.1 h').2, Option.some.injEq] at hread
  exact hread.symm

end Fitting

/-! ## The slots -/

section Slots

variable {α : Type} [HasMetadata α] {replicaType : String} {count i : Nat} {objects : List α} {o : α}

/-- A slot holds the objects that fit it, in the order of the list. -/
theorem getElem?_slotsOf (hi : i < count) :
    (slotsOf replicaType count objects)[i]? = some (objects.filter fun o => FitsSlot replicaType i o) := by
  rw [slotsOf, slots_eq, List.getElem?_map, List.getElem?_range hi, Option.map_some, ofReplicaType, List.filter_filter]
  refine congrArg some (List.filter_congr fun o _ => ?_)
  rw [Bool.eq_iff_iff, Bool.and_eq_true, beq_iff_eq, beq_iff_eq, decide_eq_true_eq, fitsSlot_iff, and_comm]

/-- There are as many slots as are counted. -/
theorem lt_of_getElem?_slotsOf {slot : List α} (h : (slotsOf replicaType count objects)[i]? = some slot) :
    i < count := by
  have hlt := (List.getElem?_eq_some_iff.1 h).1
  rwa [length_slotsOf] at hlt

/-- What stands in a slot was in the list and fits. -/
theorem fitsSlot_of_mem {slot : List α} (h : (slotsOf replicaType count objects)[i]? = some slot) (ho : o ∈ slot) :
    o ∈ objects ∧ FitsSlot replicaType i o := by
  rw [getElem?_slotsOf (lt_of_getElem?_slotsOf h), Option.some.injEq] at h
  subst h
  simpa using ho

/-- What stands in a slot is listed and fits one of the slots that there are. -/
theorem exists_slot_iff :
    (∃ slot ∈ slotsOf replicaType count objects, o ∈ slot) ↔ o ∈ objects ∧ ∃ i < count, FitsSlot replicaType i o := by
  constructor
  · rintro ⟨slot, hslot, ho⟩
    obtain ⟨i, hi⟩ := List.mem_iff_getElem?.1 hslot
    obtain ⟨hlisted, hfits⟩ := fitsSlot_of_mem hi ho
    exact ⟨hlisted, i, lt_of_getElem?_slotsOf hi, hfits⟩
  · rintro ⟨hlisted, i, hi, hfits⟩
    refine ⟨_, List.mem_of_getElem? (getElem?_slotsOf hi), ?_⟩
    simpa using ⟨hlisted, hfits⟩

/-- The parts of a list that are picked by properties of which no member has two are together the part that has one
of them. -/
theorem perm_flatten_filters {β : Type} (l : List β) (p : Nat → β → Prop) [∀ i b, Decidable (p i b)]
    (hunique : ∀ b i j, p i b → p j b → i = j) (n : Nat) :
    ((List.range n).map fun i => l.filter fun b => p i b).flatten.Perm (l.filter fun b => ∃ i < n, p i b) := by
  induction n with
  | zero => simp
  | succ n ih =>
    rw [List.range_succ, List.map_append, List.flatten_append, List.map_singleton, List.flatten_singleton]
    -- What has one of the first properties or the next one is split by whether it has one of the first.
    have hsplit := List.filter_append_perm (fun b => decide (∃ i < n, p i b)) (l.filter fun b => ∃ i < n + 1, p i b)
    rw [List.filter_filter, List.filter_filter] at hsplit
    have hfirst : (l.filter fun b => decide (∃ i < n, p i b) && decide (∃ i < n + 1, p i b)) =
        l.filter fun b => ∃ i < n, p i b := by
      refine List.filter_congr fun b _ => ?_
      rw [Bool.eq_iff_iff, Bool.and_eq_true, decide_eq_true_eq, decide_eq_true_eq, and_iff_left_iff_imp]
      rintro ⟨i, hi, hp⟩
      exact ⟨i, by omega, hp⟩
    have hnext : (l.filter fun b => !decide (∃ i < n, p i b) && decide (∃ i < n + 1, p i b)) =
        l.filter fun b => p n b := by
      refine List.filter_congr fun b _ => ?_
      rw [Bool.eq_iff_iff, Bool.and_eq_true, Bool.not_eq_true', decide_eq_false_iff_not, decide_eq_true_eq,
        decide_eq_true_eq]
      constructor
      · rintro ⟨hnone, i, hi, hp⟩
        have hin : i = n := by
          by_contra hne
          exact hnone ⟨i, by omega, hp⟩
        exact hin ▸ hp
      · intro hp
        refine ⟨?_, n, by omega, hp⟩
        rintro ⟨i, hi, hp'⟩
        have hin := hunique b i n hp' hp
        omega
    rw [hfirst, hnext] at hsplit
    exact (ih.append_right _).trans hsplit

end Slots

/-- **The slots of a replica type are an exact partition of the objects that fit one of them.** They are found whatever
the labels say. There are as many as were asked for, and each holds just the objects that fit it, as often and in the
order in which they are listed. Together they hold what fits any of them, nothing else stands in one, and nothing stands
in two. -/
theorem slots_partition_exact {α : Type} [HasMetadata α] (replicaType : String) (count : Nat) (objects : List α) :
    sortInto? count (ofReplicaType replicaType objects) (List.replicate count []) =
        some (slotsOf replicaType count objects) ∧
      (slotsOf replicaType count objects).length = count ∧
      (∀ i < count, (slotsOf replicaType count objects)[i]? =
        some (objects.filter fun o => FitsSlot replicaType i o)) ∧
      (slotsOf replicaType count objects).flatten.Perm
        (objects.filter fun o => ∃ i < count, FitsSlot replicaType i o) ∧
      (∀ o, (∃ slot ∈ slotsOf replicaType count objects, o ∈ slot) ↔
        o ∈ objects ∧ ∃ i < count, FitsSlot replicaType i o) ∧
      ∀ (o : α) (i j : Nat) (slot slot' : List α), (slotsOf replicaType count objects)[i]? = some slot →
        (slotsOf replicaType count objects)[j]? = some slot' → o ∈ slot → o ∈ slot' → i = j := by
  refine ⟨sortInto?_replicate _ _, length_slotsOf _ _ _, fun i hi => getElem?_slotsOf hi, ?_, fun o => exists_slot_iff,
    ?_⟩
  · -- As the slots are filters by index, the flattened list is one filter cut into disjoint parts.
    have hslots : slotsOf replicaType count objects =
        (List.range count).map fun i => objects.filter fun o => FitsSlot replicaType i o := by
      refine List.ext_getElem (by simp [length_slotsOf]) fun i hi _ => ?_
      rw [length_slotsOf] at hi
      simpa using List.getElem?_eq_some_iff.1 (getElem?_slotsOf hi) |>.2
    rw [hslots]
    exact perm_flatten_filters objects (FitsSlot replicaType) (fun o i j => FitsSlot.index_unique) count
  · intro o i j slot slot' hi hj ho ho'
    exact (fitsSlot_of_mem hi ho).2.index_unique (fitsSlot_of_mem hj ho').2

/-- A pod with these labels and no others. -/
def labelledPod (replicaType : String) (numeral : Option String) : Pod where
  metadata := {
    labels := some (.ofList ((Label.replicaType, replicaType) :: (numeral.map (Label.replicaIndex, ·)).toList)) }

/-- Of the pods with these labels two fit the third slot of the workers, and the others fit none. -/
theorem slots_partition_exact_editedLabels :
    let pods := [labelledPod "worker" (some "+2"), labelledPod "worker" (some "7"), labelledPod "master" (some "2"),
      labelledPod "worker" (some "two"), labelledPod "worker" none, labelledPod "worker" (some "002"),
      labelledPod "worker" (some "18446744073709551616")]
    2 < 3 ∧ (slotsOf "Worker" 3 pods)[2]? = some [labelledPod "worker" (some "+2"), labelledPod "worker" (some "002")] ∧
      (∃ slot ∈ slotsOf "Worker" 3 pods, labelledPod "worker" (some "+2") ∈ slot) ∧
      ¬ ∃ slot ∈ slotsOf "Worker" 3 pods, labelledPod "worker" (some "7") ∈ slot := by
  intro pods
  have hlt : 2 < 3 := by decide
  obtain ⟨-, -, hslots, -, hfit, -⟩ := slots_partition_exact "Worker" 3 pods
  refine ⟨hlt, (hslots 2 hlt).trans (by decide +kernel), (hfit _).2 (by decide +kernel), ?_⟩
  rw [hfit]
  decide +kernel

end TrainingJobs
