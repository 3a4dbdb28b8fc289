/-
When a pass replaces pods.

A plan is carried out only while nothing is outstanding under the key of its replica type. At the start of a
pass that is not held up nothing is, and what the pass itself asks for under the key of one type says nothing
about the next, so every plan is carried out. So a pass that ends well is to be repeated as a retry exactly
when it gets to the point where pods are replaced (`backoff_iff`), and a pass that replaces none leaves every
pod where it is (`podsKept_sync`), unless it is the end of the job.
-/
import TrainingJobs.Proofs.Unfailing

set_option autoImplicit false

namespace TrainingJobs

namespace Controller

open MemoryStore

variable {a : Address} {now : Timestamp} {job : Job} {c c' : Controller MemoryStore}

/-! ## One replica type at a time -/

/-- Nothing has become of what is expected of other replica types. -/
def Elsewhere (replicaType : String) (c c' : Controller MemoryStore) : Prop :=
  ∀ key now, key.replicaType ≠ replicaType →
    c'.expectations.satisfied key now = c.expectations.satisfied key now

/-- What the controller says and computes changes nothing elsewhere. -/
theorem elsewhere_frame (replicaType : String) : Frame (Elsewhere replicaType) where
  refl _ _ _ _ := rfl
  trans h₁ h₂ key now hne := (h₂ key now hne).trans (h₁ key now hne)
  told _ _ _ _ _ := rfl

/-- To expect something of a type changes nothing for the others. -/
theorem elsewhere_set (key : ExpectationKey) (adds dels : Int) (now : Timestamp) (c : Controller MemoryStore) :
    Elsewhere key.replicaType c (expected (fun x => x.set key adds dels now) c) := fun _ later hne =>
  Expectations.satisfied_set_of_ne (fun h => hne (congrArg _ h)) adds dels now later c.expectations

/-- Nor does taking something off its record. -/
theorem elsewhere_lower (key : ExpectationKey) (adds dels : Int) (c : Controller MemoryStore) :
    Elsewhere key.replicaType c (expected (fun x => x.lower key adds dels) c) := fun _ later hne =>
  Expectations.satisfied_lower_of_ne (fun h => hne (congrArg _ h)) adds dels later c.expectations

/-- Bringing one replica type in line does not touch what is expected of the others. -/
theorem elsewhere_reconcilePods (replicaType : String) (spec : ReplicaSpec) (pods : List Pod) :
    Keeps (Elsewhere (Text.lowercase replicaType)) (reconcilePods now job replicaType spec pods) :=
  keeps_reconcilePods (elsewhere_frame _) (elsewhere_set (.of job.key replicaType .pods) · · now)
    (elsewhere_lower (.of job.key replicaType .pods)) (fun _ _ _ _ _ _ => rfl) fun _ _ _ _ _ _ _ _ _ _ => rfl

/-- So services of one type never hold up another. -/
theorem elsewhere_reconcileServices (replicaType : String) (spec : ReplicaSpec) (services : List Service) :
    Keeps (Elsewhere (Text.lowercase replicaType)) (reconcileServices now job replicaType spec services) :=
  keeps_reconcileServices (elsewhere_frame _) (elsewhere_set (.of job.key replicaType .services) · · now)
    (elsewhere_lower (.of job.key replicaType .services)) fun _ _ _ _ _ _ _ _ _ _ => rfl

/-- Where nothing is outstanding under the key of a type, its plan is carried out in full. -/
theorem yields_reconcilePods_of_satisfied {replicaType : String} {spec : ReplicaSpec} {pods : List Pod}
    (h : c.expectations.satisfied (.of job.key replicaType .pods) now = true) :
    Yields (reconcilePods now job replicaType spec pods) c
      (fun replaced _ => replaced = (podPlan replicaType spec pods).restarts.length) fun _ _ => True := by
  unfold reconcilePods carryOut
  rw [yields_bind, yields_tellAll]
  simp only
  split
  · -- There is nothing to do, so there is nothing to be replaced either.
    next hnone =>
    rw [List.isEmpty_iff, PodPlan.requests, List.append_eq_nil_iff, List.map_eq_nil_iff] at hnone
    rw [yields_pure, hnone.1]
    rfl
  · rw [yields_bind, yields_get, h, if_neg (by decide), yields_bind, yields_expecting, yields_bind]
    exact (Yields.trivial _ _).mono (fun _ _ _ => rfl) fun _ _ => id

/-- Where nothing is outstanding for the pods of any of the types, all that is to be replaced is. -/
theorem yields_reconcileReplicas_of_satisfied {pods : List Pod} {services : List Service} :
    ∀ (entries : List (String × ReplicaSpec)) (status : JobStatus) (c : Controller MemoryStore),
      (entries.Pairwise fun e e' => Text.lowercase e'.1 ≠ Text.lowercase e.1) →
      (∀ e ∈ entries, c.expectations.satisfied (.of job.key e.1 .pods) now = true) →
      Yields (reconcileReplicas now job pods services entries status) c
        (fun result _ => ∀ e ∈ entries, (podPlan e.1 e.2 pods).restarts.length ≤ result.2) fun _ _ => True
  | [], _, _, _, _ => fun _ he => absurd he List.not_mem_nil
  | e :: rest, status, c, hdistinct, hsatisfied => by
    obtain ⟨hothers, hrest⟩ := List.pairwise_cons.1 hdistinct
    unfold reconcileReplicas
    rw [yields_bind]
    refine ((yields_reconcilePods_of_satisfied (hsatisfied e List.mem_cons_self)).and
      (elsewhere_reconcilePods e.1 e.2 pods c)).mono (fun replaced c₁ h₁ => ?_) fun _ _ _ => trivial
    obtain ⟨hreplaced, hc₁⟩ := h₁
    rw [yields_bind]
    refine (elsewhere_reconcileServices e.1 e.2 services c₁).mono (fun _ c₂ h₂ => ?_) fun _ _ _ => trivial
    have hc₂ := (elsewhere_frame _).trans hc₁ h₂
    rw [yields_bind]
    -- The later types find their keys as they were at the start.
    refine (yields_reconcileReplicas_of_satisfied rest _ c₂ hrest fun e' he' => ?_).mono
      (fun result c₃ h₃ e' he' => ?_) fun _ _ => id
    · rw [hc₂ _ _ (hothers e' he')]
      exact hsatisfied e' (List.mem_cons_of_mem _ he')
    · rcases List.mem_cons.1 he' with rfl | he'
      · rw [hreplaced]
        exact Nat.le_add_right _ _
      · exact Nat.le_trans (h₃ e' he') (Nat.le_add_left _ _)

/-- The types of an acceptable job have different names in lower case, too. -/
theorem lowercase_ne_of_acceptable {s : JobSpec} (h : s.fault? = none) :
    s.replicaSpecs.entries.Pairwise fun e e' => Text.lowercase e'.1 ≠ Text.lowercase e.1 := by
  obtain ⟨m, hm⟩ | ⟨m, w, hmw⟩ := JobSpec.entries_of_acceptable h
  · rw [hm]
    exact List.pairwise_singleton _ _
  · rw [hmw]
    simp only [List.pairwise_cons, List.mem_singleton, forall_eq, List.not_mem_nil, false_implies,
      implies_true, List.Pairwise.nil, and_true]
    decide

/-- A job that is not held up and has pods to be replaced is to be looked at again as a retry. -/
theorem yields_advance_of_restarts {pods : List Pod} {services : List Service} {status : JobStatus}
    (hvalid : job.spec.fault? = none) (hfree : ¬ job.HeldUp now c)
    (hrestarts : ∃ e ∈ job.spec.replicaSpecs.entries, (podPlan e.1 e.2 pods).restarts ≠ []) :
    Yields (advance now job pods services status) c (fun outcome _ => outcome = .backoff) fun _ _ => True := by
  obtain ⟨e, he, hne⟩ := hrestarts
  have hsatisfied : ∀ e ∈ job.spec.replicaSpecs.entries,
      c.expectations.satisfied (.of job.key e.1 .pods) now = true := by
    intro e he
    refine (Job.not_heldUp_iff.1 hfree).2 _ (List.mem_flatMap.2 ⟨e.1, List.mem_map.2 ⟨e, he, rfl⟩, ?_⟩)
    exact List.mem_cons_self
  unfold advance
  rw [yields_bind]
  refine (yields_reconcileReplicas_of_satisfied _ status c (lowercase_ne_of_acceptable hvalid) hsatisfied).mono
    (fun result c₁ h => ?_) fun _ _ => id
  -- Neither the judgement nor the write of the status can turn the answer into another.
  have hpositive : 0 < result.2 := Nat.lt_of_lt_of_le (List.length_pos_iff.2 hne) (h e he)
  rw [yields_bind]
  refine (Yields.trivial _ c₁).mono (fun judged c₂ _ => ?_) fun _ _ => id
  rw [yields_bind]
  refine (Yields.trivial _ c₂).mono (fun _ c₃ _ => ?_) fun _ _ => id
  rw [if_pos hpositive]
  rfl

/-- **A pass that ends well is to be repeated as a retry exactly when it gets to replace pods.** -/
theorem backoff_iff {key : String} {stored : Job} {outcome : Outcome} (hkey : splitKey? key = some (a.ns, a.name))
    (hstored : c.store.jobs.get? a = some stored) (haddress : stored.address = a)
    (hrun : (sync now key).run c = (.ok outcome, c')) : outcome = .backoff ↔ stored.BacksOff now c := by
  refine ⟨((yields_sync now hkey hstored haddress).ok hrun).1, ?_⟩
  rintro ⟨hvalid, hfree, hopen, hlimit, hrestarts⟩
  have h : Yields (sync now key) c (fun outcome _ => outcome = .backoff) fun _ _ => True := by
    refine yields_sync_of_within_limits hkey hstored hvalid hfree hopen hlimit (fun _ _ _ => trivial) fun c₁ h₁ => ?_
    -- A pod group that was made before holds nothing up.
    refine yields_advance_of_restarts hvalid ?_ hrestarts
    unfold Job.HeldUp expectationsSatisfied at hfree ⊢
    rw [h₁.expectations]
    exact hfree
  exact h.ok hrun

/-! ## Pods that stay -/

/-- Wherever there was a pod, there still is one. -/
def PodsKept (c c' : Controller MemoryStore) : Prop :=
  ∀ b, c.store.pods.contains b = true → c'.store.pods.contains b = true

/-- What the controller says and computes keeps all pods. -/
theorem podsKept_frame : Frame PodsKept where
  refl _ _ := id
  trans h₁ h₂ b := h₂ b ∘ h₁ b
  told _ _ _ := id

/-- To create a pod keeps those that are there, since it does not replace any. -/
theorem podsKept_createPod (ns : String) (pod : Pod) (c : Controller MemoryStore) :
    PodsKept c (requested (ObjectStore.createPod ns pod) c) := by
  intro b hb
  have heffect := effect_createPod ns pod c.store
  generalize hstore : ((ObjectStore.createPod ns pod : StoreM MemoryStore Pod).run c.store).2 = s at heffect
  unfold requested
  rw [hstore]
  cases heffect with
  | refused => exact hb
  | made =>
    -- The new pod stands at one address, and the others are as before.
    unfold withPod created Dict.contains at *
    simp only [Dict.get?_insert]
    split
    · rfl
    · exact hb

theorem PodsKept.of_pods_eq (h : c'.store.pods = c.store.pods) : PodsKept c c' := by
  intro b hb
  rw [h]
  exact hb

/-- Bringing a job in line keeps every pod when none is to be replaced. -/
theorem podsKept_advance {pods : List Pod} {services : List Service} {status : JobStatus}
    (h : ∀ e ∈ job.spec.replicaSpecs.entries, (podPlan e.1 e.2 pods).restarts = []) :
    Keeps PodsKept (advance now job pods services status) := by
  refine keeps_advance podsKept_frame (fun e he => ⟨?_, ?_⟩)
    fun status c => .of_pods_eq ((effect_updateJobStatus job status c.store).pods_eq (pods_recorded _ _ _))
  · refine keeps_reconcilePods podsKept_frame (fun _ _ _ _ => id) (fun _ _ _ _ => id) ?_
      fun _ _ _ _ c _ _ => podsKept_createPod _ _ c
    rw [h e he]
    exact fun _ hname => absurd hname List.not_mem_nil
  · exact keeps_reconcileServices podsKept_frame (fun _ _ _ _ => id) (fun _ _ _ _ => id)
      fun _ _ _ _ c _ _ => .of_pods_eq ((effect_createService _ _ c.store).pods_eq rfl)

/-- **A pass that does not get to replace pods and is not the end of the job keeps every pod.** -/
theorem podsKept_sync {key : String} {stored : Job} (hkey : splitKey? key = some (a.ns, a.name))
    (hstored : c.store.jobs.get? a = some stored) (hvalid : stored.withDefaults.spec.fault? = none)
    (hopen : (stored.withDefaults.takenIn now).isFinished = false)
    (hlimit : stored.withDefaults.exceeded? (stored.withDefaults.podsIn c.store)
      (c.retries.count stored.withDefaults.key) (stored.withDefaults.takenIn now) now = none)
    (hnone : ¬ stored.BacksOff now c) : PodsKept c ((sync now key).run c).2 := by
  have h : Yields (sync now key) c (fun _ c' => PodsKept c c') fun _ c' => PodsKept c c' := by
    refine yields_sync_of_ways hkey hstored hvalid (fun _ _ _ _ => id) (fun _ _ _ _ => id)
      (fun c₁ failure _ hfailure hended => ?_) fun c₁ h₁ hfree _ _ => ?_
    · -- A job without a verdict and past no limit is not brought to its end.
      rw [← hfailure, hlimit, hopen] at hended
      exact absurd hended (by decide)
    · have hkept : ∀ c', PodsKept c₁ c' → PodsKept c c' := fun _ => podsKept_frame.trans (.of_pods_eq h₁.pods)
      refine (podsKept_advance (fun e he => ?_) c₁).mono (fun _ => hkept) fun _ => hkept
      exact Decidable.byContradiction fun hne => hnone ⟨hvalid, hfree, hopen, hlimit, e, he, hne⟩
  exact h.run

end Controller

end TrainingJobs
