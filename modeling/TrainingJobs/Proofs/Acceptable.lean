/-
What an acceptable job spec looks like.

A spec without a fault has a master and perhaps workers, and since the replica types are kept in the order of
their names, that leaves two forms for the list of them (`JobSpec.entries_of_acceptable`): the master alone, or
the master and then the workers. Each of them has a training container, and there is one master.
-/
import Mathlib.Algebra.Group.Int.Defs
import TrainingJobs.Job.Validation

set_option autoImplicit false

namespace TrainingJobs

/-- A replica type without a fault is one of the two, has a training container, and has one replica if it is
the master. -/
theorem ReplicaSpec.of_fault?_eq_none {replicaType : String} {s : ReplicaSpec}
    (h : s.fault? replicaType = none) : (replicaType = masterType ∨ replicaType = workerType) ∧
      (∃ c ∈ s.containers, c.name = Job.containerName) ∧ (replicaType = masterType → s.count = 1) := by
  unfold ReplicaSpec.fault? at h
  -- The checks are made one after the other, and the last branch is the one where none found anything.
  split at h
  · exact absurd h (by simp)
  · next htype =>
    split at h
    · exact absurd h (by simp)
    · split at h
      · exact absurd h (by simp)
      · split at h
        · exact absurd h (by simp)
        · next htraining =>
          split at h
          · exact absurd h (by simp)
          · next hmaster =>
            refine ⟨?_, ?_, ?_⟩
            · exact Decidable.or_iff_not_imp_left.2 fun hne => Decidable.byContradiction fun hne' =>
                htype ⟨hne, hne'⟩
            · rw [Bool.not_eq_true, Bool.not_eq_false', List.any_eq_true] at htraining
              obtain ⟨c, hc, hname⟩ := htraining
              exact ⟨c, hc, beq_iff_eq.1 hname⟩
            · exact fun heq => Decidable.byContradiction fun hcount => hmaster ⟨heq, hcount⟩

namespace JobSpec

variable {s : JobSpec}

/-- A spec without a fault has no replica type with one, and has a master. -/
theorem of_fault?_eq_none (h : s.fault? = none) :
    (∀ e ∈ s.replicaSpecs.entries, e.2.fault? e.1 = none) ∧
      ∃ m, (masterType, m) ∈ s.replicaSpecs.entries := by
  -- `fault?` asks three questions in turn; each one that is answered with a fault ends the case.
  unfold fault? at h
  split at h
  · exact absurd h (by simp)
  · split at h
    · exact absurd h (by simp)
    · next hnone =>
      refine ⟨List.findSome?_eq_none_iff.1 hnone, ?_⟩
      split at h
      · next hmaster =>
        obtain ⟨m, hm⟩ := Option.isSome_iff_exists.1 hmaster
        exact ⟨m, Dict.get?_eq_some_iff.1 hm⟩
      · exact absurd h (by simp)

/-- A spec without a fault asks for one master. -/
theorem count_master (h : s.fault? = none) {m : ReplicaSpec} (hm : (masterType, m) ∈ s.replicaSpecs.entries) :
    m.count = 1 :=
  (ReplicaSpec.of_fault?_eq_none ((of_fault?_eq_none h).1 _ hm)).2.2 rfl

/-- So there is one slot for it. -/
theorem slotCount_master (h : s.fault? = none) {m : ReplicaSpec} (hm : (masterType, m) ∈ s.replicaSpecs.entries) :
    m.slotCount = 1 :=
  congrArg Int32.toNatClampNeg (count_master h hm)

/-- The replica types of a spec without a fault are the master, and perhaps the workers after it. -/
theorem entries_of_acceptable (h : s.fault? = none) :
    (∃ m, s.replicaSpecs.entries = [(masterType, m)]) ∨
      ∃ m w, s.replicaSpecs.entries = [(masterType, m), (workerType, w)] := by
  obtain ⟨hentries, m, hm⟩ := of_fault?_eq_none h
  have htypes : ∀ e ∈ s.replicaSpecs.entries, e.1 = masterType ∨ e.1 = workerType := fun e he =>
    (ReplicaSpec.of_fault?_eq_none (hentries e he)).1
  have hsorted := s.replicaSpecs.sorted
  rcases hlist : s.replicaSpecs.entries with _ | ⟨⟨t₁, s₁⟩, _ | ⟨⟨t₂, s₂⟩, rest⟩⟩
  · rw [hlist] at hm
    exact absurd hm (by simp)
  · rw [hlist, List.mem_singleton] at hm
    exact .inl ⟨m, by rw [hm]⟩
  · rw [hlist] at htypes hsorted
    have ht₁ := htypes (t₁, s₁) (by simp)
    have ht₂ := htypes (t₂, s₂) (by simp)
    have h₁₂ : compare t₁ t₂ = .lt := (List.pairwise_cons.1 hsorted).1 (t₂, s₂) (by simp)
    simp only at ht₁ ht₂
    -- Of two names in order, the first is the master's and the second the workers'.
    obtain ⟨rfl, rfl⟩ : t₁ = masterType ∧ t₂ = workerType := by
      rcases ht₁ with rfl | rfl <;> rcases ht₂ with rfl | rfl
      · exact absurd h₁₂ (by decide)
      · exact ⟨rfl, rfl⟩
      · exact absurd h₁₂ (by decide)
      · exact absurd h₁₂ (by decide)
    -- A third name would have to come after the workers', which is the last.
    rcases rest with _ | ⟨⟨t₃, s₃⟩, rest⟩
    · exact .inr ⟨s₁, s₂, rfl⟩
    · have ht₃ := htypes (t₃, s₃) (by simp)
      have h₂₃ : compare workerType t₃ = .lt :=
        (List.pairwise_cons.1 (List.pairwise_cons.1 hsorted).2).1 (t₃, s₃) (by simp)
      simp only at ht₃
      rcases ht₃ with rfl | rfl
      · exact absurd h₂₃ (by decide)
      · exact absurd h₂₃ (by decide)

/-- An acceptable spec asks for one master, and for workers if it has such. -/
theorem demand_of_acceptable (h : s.fault? = none) :
    (∃ m, s.replicaSpecs.entries = [(masterType, m)] ∧ m.count = 1 ∧ s.demand = 1) ∨
      ∃ m w, s.replicaSpecs.entries = [(masterType, m), (workerType, w)] ∧ m.count = 1 ∧
        s.demand = 1 + (w.count : Int) := by
  unfold demand Dict.values
  -- Keys stand in their order, so the list is the master alone or the master before the workers.
  obtain ⟨m, hlist⟩ | ⟨m, w, hlist⟩ := entries_of_acceptable h
  · have hm : m.count = 1 := count_master h (by rw [hlist]; exact List.mem_cons_self)
    refine .inl ⟨m, hlist, hm, ?_⟩
    rw [hlist, List.map_singleton, tally_cons, tally_nil, hm]
    rfl
  · have hm : m.count = 1 := count_master h (by rw [hlist]; exact List.mem_cons_self)
    refine .inr ⟨m, w, hlist, hm, ?_⟩
    rw [hlist, List.map_cons, List.map_singleton, tally_cons, tally_cons, tally_nil, hm, Int.add_zero]
    rfl

/-- So it asks for one replica more than can be counted, at the most. -/
theorem demand_le (h : s.fault? = none) : s.demand ≤ 2 ^ 31 := by
  obtain ⟨m, -, -, hdemand⟩ | ⟨m, w, -, -, hdemand⟩ := demand_of_acceptable h
  · rw [hdemand]
    decide
  · have hworkers := Int32.toInt_lt w.count
    omega

end JobSpec

end TrainingJobs
