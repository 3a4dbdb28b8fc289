/-
What is outstanding, and what settles it.

A job is left alone while something asked for on its behalf is outstanding. A record under one key says nothing
about any other key, so each key is satisfied or not on its own, and a job is free exactly when every one of
its keys is (`not_heldUp_iff`). Time and whatever the watch reports only ever settle things: a key that is
satisfied stays so until something is asked for under it again. The end of a job asks for nothing that has to
be seen, so a pass over a job that is past a limit leaves everything satisfied that was (`eased_sync`).
-/
import TrainingJobs.Proofs.Resolution

set_option autoImplicit false

namespace TrainingJobs

/-! ## One key -/

section Modify

variable {κ α : Type} [Ord κ] [Std.TransOrd κ] [Std.LawfulEqOrd κ]

/-- An entry that is modified is found modified, and one that is not there is not found. -/
theorem Dict.get?_modify_self (d : Dict κ α) (k : κ) (f : α → α) :
    (d.modify k f).get? k = (d.get? k).map f := by
  unfold Dict.modify
  rcases hv : d.get? k with _ | v
  · exact hv
  · exact Dict.get?_insert_self d k (f v)

/-- All other entries are found as before. -/
theorem Dict.get?_modify_ne (d : Dict κ α) {k k' : κ} (f : α → α) (h : k' ≠ k) :
    (d.modify k f).get? k' = d.get? k' := by
  unfold Dict.modify
  rcases d.get? k with _ | v
  · rfl
  · exact Dict.get?_insert_ne d (f v) h

omit [Std.TransOrd κ] in
/-- What is found in a part of a map is what is found in the map, if it is in that part. -/
theorem Dict.get?_filter (d : Dict κ α) (p : κ → α → Bool) (k : κ) :
    (d.filter p).get? k = (d.get? k).filter (p k) := by
  refine Option.ext fun v => ?_
  rw [Dict.get?_eq_some_iff, Option.filter_eq_some_iff, Dict.get?_eq_some_iff]
  exact List.mem_filter

end Modify

namespace Expectations

variable {e : Expectations} {key key' : ExpectationKey} {now later : Timestamp} {adds dels : Int}

/-- What is recorded under one key does not concern another. -/
theorem satisfied_set_of_ne (h : key' ≠ key) (adds dels : Int) (now later : Timestamp) (e : Expectations) :
    (e.set key adds dels now).satisfied key' later = e.satisfied key' later := by
  unfold satisfied set
  rw [Dict.get?_insert_ne _ _ h]

/-- Lowering a record holds nothing else up, and lets nothing else go. -/
theorem satisfied_lower_of_ne (h : key' ≠ key) (adds dels : Int) (later : Timestamp) (e : Expectations) :
    (e.lower key adds dels).satisfied key' later = e.satisfied key' later := by
  unfold satisfied lower
  rw [Dict.get?_modify_ne _ _ h]

/-- When a job is gone, what is recorded under its key is dropped and nothing else. -/
theorem get?_deleteJob (e : Expectations) (jobKey : String) (key : ExpectationKey) :
    (e.deleteJob jobKey).records.get? key = if key.jobKey = jobKey then none else e.records.get? key := by
  unfold deleteJob
  rw [Dict.get?_filter]
  -- A filter on keys drops whole entries, so what is found stays or goes with its key.
  by_cases h : key.jobKey = jobKey
  · rw [if_pos h, h]
    rcases e.records.get? key with _ | record
    · rfl
    · exact Option.filter_some_neg (by simp)
  · rw [if_neg h]
    rcases e.records.get? key with _ | record
    · rfl
    · exact Option.filter_some_pos (by simpa using h)

/-- A key is satisfied unless there is a record under it that is open and has not expired. -/
theorem satisfied_iff : e.satisfied key now = true ↔ ∀ record, e.records.get? key = some record →
    record.fulfilled = true ∨ isExpired record.recordedAt now e.timeout = true := by
  unfold satisfied
  rcases e.records.get? key with _ | record
  · simp
  · simp only [Bool.or_eq_true, Option.some.injEq, forall_eq']

/-- Seeing something leaves a key satisfied that was. -/
theorem satisfied_lower (hadds : 0 ≤ adds) (hdels : 0 ≤ dels) (h : e.satisfied key' now = true) :
    (e.lower key adds dels).satisfied key' now = true := by
  by_cases hkey : key' = key
  · subst hkey
    rw [satisfied_iff] at h ⊢
    intro record hrecord
    unfold lower at hrecord
    rw [Dict.get?_modify_self] at hrecord
    obtain ⟨old, hold, rfl⟩ := Option.map_eq_some_iff.1 hrecord
    refine (h old hold).imp_left fun hfulfilled => ?_
    -- What had come down to zero or below is now further down.
    unfold Expectation.fulfilled Expectation.lower at *
    simp only [Bool.and_eq_true, decide_eq_true_eq] at *
    omega
  · rw [satisfied_lower_of_ne hkey]
    exact h

/-- A key that is satisfied stays so as time passes. -/
theorem satisfied_later (hlater : now.nanos ≤ later.nanos) (h : e.satisfied key now = true) :
    e.satisfied key later = true := by
  rw [satisfied_iff] at h ⊢
  intro record hrecord
  refine (h record hrecord).imp_right fun hexpired => ?_
  -- A record that is too old only gets older.
  unfold isExpired Timestamp.since at *
  simp only [decide_eq_true_eq] at *
  omega

/-- Nothing is pending under a key exactly if it is satisfied. -/
theorem pending_eq_none_iff : e.pending key now = none ↔ e.satisfied key now = true := by
  unfold pending
  by_cases h : e.satisfied key now
  · rw [if_pos h]
    exact iff_of_true rfl h
  · rw [if_neg h, Option.map_eq_none_iff]
    refine iff_of_false (fun hnone => h ?_) h
    rw [satisfied_iff, hnone]
    exact fun record hrecord => absurd hrecord (by simp)

/-- A fold over options finds nothing when there was nothing before and no member adds anything. -/
theorem foldl_eq_none_iff {α β : Type} {f : Option α → β → Option α} {p : β → Prop}
    (h : ∀ acc b, f acc b = none ↔ acc = none ∧ p b) (acc : Option α) (l : List β) :
    l.foldl f acc = none ↔ acc = none ∧ ∀ b ∈ l, p b := by
  -- The induction carries what the members before have left.
  induction l generalizing acc with
  | nil => exact ⟨fun hnone => ⟨hnone, fun b hb => absurd hb List.not_mem_nil⟩, And.left⟩
  | cons b rest ih => rw [List.foldl_cons, ih, h, List.forall_mem_cons, and_assoc]

/-- Nothing is pending under a list of keys exactly when each of them is satisfied. -/
theorem firstPending_eq_none_iff (e : Expectations) (keys : List ExpectationKey) (now : Timestamp) :
    e.firstPending keys now = none ↔ ∀ key ∈ keys, e.satisfied key now = true := by
  unfold firstPending
  rw [foldl_eq_none_iff (p := fun key => e.satisfied key now = true), and_iff_right rfl]
  intro acc key
  rw [← pending_eq_none_iff]
  rcases acc with _ | a <;> rcases e.pending key now with _ | b <;> simp

end Expectations

/-- A pass attends to a job that is not going and under none of whose keys anything is outstanding. -/
theorem Job.not_heldUp_iff {job : Job} {now : Timestamp} {c : Controller MemoryStore} :
    ¬ job.HeldUp now c ↔
      job.isLeaving = false ∧ ∀ key ∈ job.expectationKeys, c.expectations.satisfied key now = true := by
  unfold HeldUp Controller.expectationsSatisfied
  rw [not_or, Bool.not_eq_true, Bool.not_eq_false, Option.isNone_iff_eq_none,
    Expectations.firstPending_eq_none_iff]

/-! ## What settles a key leaves it settled -/

namespace Controller

/-- Every key of the job that is satisfied at some time is still satisfied at that time. -/
def Eased (jobKey : String) (c c' : Controller MemoryStore) : Prop :=
  ∀ key now, key.jobKey = jobKey → c.expectations.satisfied key now = true →
    c'.expectations.satisfied key now = true

variable {jobKey : String} {now : Timestamp} {job : Job} {c c' : Controller MemoryStore}

/-- What the controller says and computes holds up no job any longer. -/
theorem eased_frame (jobKey : String) : Frame (Eased jobKey) where
  refl _ _ _ _ := id
  trans h₁ h₂ key now hkey := h₂ key now hkey ∘ h₁ key now hkey
  told _ _ _ _ _ := id

/-- Nor does any request. -/
theorem eased_requested {α : Type} (op : StoreM MemoryStore α) (c : Controller MemoryStore) :
    Eased jobKey c (requested op c) := fun _ _ _ => id

/-- Nor a deletion that is seen: it takes off the record. -/
theorem eased_deletionObserved (key : ExpectationKey) (c : Controller MemoryStore) :
    Eased jobKey c (expected (fun x => x.deletionObserved key) c) := fun _ _ _ =>
  Expectations.satisfied_lower (Int.le_refl 0) Int.one_nonneg

/-- Bringing a job to its end leaves every key satisfied that was. -/
theorem eased_terminate (now : Timestamp) (job : Job) (pods : List Pod) (status : JobStatus)
    (failure : Option String) : Keeps (Eased jobKey) (terminate now job pods status failure) :=
  keeps_terminate (eased_frame jobKey) (fun _ _ => eased_requested _) (fun _ _ => eased_requested _)
    (eased_requested _) (eased_requested _) (eased_requested _) (eased_requested _)
    fun _ => eased_deletionObserved _

/-- Where nothing was outstanding for a job, nothing is after its keys were eased and time has passed. -/
theorem Eased.not_heldUp {later : Timestamp} (h : Eased job.key c c') (hlater : now.nanos ≤ later.nanos)
    (hfree : ¬ job.HeldUp now c) : ¬ job.HeldUp later c' := by
  rw [Job.not_heldUp_iff] at hfree ⊢
  refine ⟨hfree.1, fun key hkey => ?_⟩
  have hjobKey : key.jobKey = job.key := by
    unfold Job.expectationKeys at hkey
    obtain ⟨replicaType, -, hkey⟩ := List.mem_flatMap.1 hkey
    rw [List.mem_cons, List.mem_singleton] at hkey
    -- Pods and services alike are expected under the key of the job.
    rcases hkey with rfl | rfl <;> rfl
  exact Expectations.satisfied_later hlater (h key now hjobKey (hfree.2 key hkey))

/-- A pass over a stored job that is past a limit leaves every key satisfied that was. -/
theorem eased_sync (jobKey : String) {key : String} {a : Address} {stored : Job}
    (hkey : splitKey? key = some (a.ns, a.name)) (hstored : c.store.jobs.get? a = some stored)
    (hvalid : stored.withDefaults.spec.fault? = none)
    (hlimit : (stored.withDefaults.exceeded? (stored.withDefaults.podsIn c.store)
      (c.retries.count stored.withDefaults.key) (stored.withDefaults.takenIn now) now).isSome = true) :
    Eased jobKey c ((sync now key).run c).2 := by
  have h : Yields (sync now key) c (fun _ c' => Eased jobKey c c') fun _ c' => Eased jobKey c c' := by
    refine yields_sync_of_ways hkey hstored hvalid (fun _ _ _ _ _ _ => id) (fun _ _ _ _ _ _ => id)
      (fun c₁ failure h₁ _ _ => ?_) fun c₁ _ _ _ hnone => ?_
    · -- A pod group that was made before has changed no expectation.
      have heased : ∀ c', Eased jobKey c₁ c' → Eased jobKey c c' := by
        intro c' h key now hkey hsatisfied
        exact h key now hkey (by rw [h₁.expectations]; exact hsatisfied)
      exact (eased_terminate now _ _ _ failure c₁).mono (fun _ => heased) fun _ => heased
    · -- A job past a limit is not brought in line.
      rw [hnone] at hlimit
      exact absurd hlimit (by decide)
  exact h.run

end Controller

end TrainingJobs
