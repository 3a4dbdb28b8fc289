/-
Which pods and services go when a job ends, and which stay.

The end of a job deletes the pods that its policy has no use for, each with the service of its name, and touches no
other pod or service. So what goes can be read off the store that the pass finds: a pod goes exactly when it is a pod
of the job, is not going already and is in a phase that is cleaned up (`Job.Clears`), and a service goes exactly when
such a pod has its name. What is not a pod of the job stays whatever its phase, and so does a pod of the job that is
going already, since someone else has seen to it.

This needs that the store refuses nothing. What is left when it does refuse is said in `Leftovers`.
-/
import TrainingJobs.Proofs.Convergence
import TrainingJobs.Proofs.Leftovers

set_option autoImplicit false

namespace TrainingJobs

open Controller MemoryStore

/-! ## What goes and what stays -/

namespace Job

variable {job : Job} {s s' : MemoryStore} {x : Address} {pod : Pod}

/-- The pod at `x` goes when the job ends: it has the labels of the job in the namespace of the job, it is not going
already, and its phase is one that the policy of the job does not keep. -/
def Clears (job : Job) (x : Address) (pod : Pod) : Prop :=
  x.ns = job.ns ∧ Labels.selectedBy pod.metadata.labelsOrEmpty (Labels.ofJob group job.name) = true ∧
    pod.metadata.deletionTimestamp = none ∧
    match job.spec.runPolicy.cleaning with
    | .none => False
    | .all => True
    | .running => pod.phase? = some "Running" ∨ pod.phase? = some "Pending"

/-- What the end of a job leaves of the pods and services of a store. -/
structure CleanedUp (job : Job) (s s' : MemoryStore) : Prop where
  /-- A policy that cleans up nothing keeps everything. -/
  kept : job.spec.runPolicy.cleaning = .none → s'.pods = s.pods ∧ s'.services = s.services
  pods_gone : ∀ x pod, s.pods.get? x = some pod → (s'.pods.get? x = none ↔ job.Clears x pod)
  pods_left : ∀ x pod, s'.pods.get? x = some pod → s.pods.get? x = some pod
  /-- A service goes with the pod of its name. -/
  services_gone : ∀ x service, s.services.get? x = some service →
    (s'.services.get? x = none ↔
      x.ns = job.ns ∧ ∃ y pod, s.pods.get? y = some pod ∧ job.Clears y pod ∧ nameOf pod = x.name)
  services_left : ∀ x service, s'.services.get? x = some service → s.services.get? x = some service

/-- The test that the pass makes of a pod says that the pod goes. -/
theorem discardsAt_iff : job.discardsAt x pod = true ↔ job.Clears x pod := by
  unfold discardsAt Clears Pod.isCleanedUp Pod.isLeaving
  rw [Bool.and_eq_true, Bool.and_eq_true, beq_iff_eq, and_assoc]
  apply and_congr_right
  intro _
  apply and_congr_right
  intro _
  cases job.spec.runPolicy.cleaning with
  | none => simp
  | all => simp
  | running => simp

/-- The addresses that are cleaned up are those of pods that go, since every pod stands at its own address. -/
theorem mem_discards_iff_clears (hplace : s.PodsInPlace) :
    x ∈ job.discards (job.podsIn s) ↔ ∃ pod, s.pods.get? x = some pod ∧ job.Clears x pod := by
  rw [mem_discards_iff hplace]
  apply exists_congr
  intro pod
  rw [discardsAt_iff]

/-- A service is deleted at the address of a pod that goes, which is the namespace of the job and the name of that
pod. -/
theorem mem_discards_iff_named (hplace : s.PodsInPlace) :
    x ∈ job.discards (job.podsIn s) ↔
      x.ns = job.ns ∧ ∃ y pod, s.pods.get? y = some pod ∧ job.Clears y pod ∧ nameOf pod = x.name := by
  rw [mem_discards_iff_clears hplace]
  constructor
  · rintro ⟨pod, hpod, hclears⟩
    have hname : nameOf pod = x.name := congrArg Address.name (hplace x pod hpod)
    exact ⟨hclears.1, x, pod, hpod, hclears, hname⟩
  · -- Back: a pod lies under its own address, so one of that name is the one at `x`.
    rintro ⟨hns, y, pod, hpod, hclears, hname⟩
    have hplaced : pod.metadata.address = y := hplace y pod hpod
    have hyname : y.name = x.name := by
      rw [← hname, ← hplaced]
      rfl
    have hsame : y = x := by
      calc y = ⟨y.ns, y.name⟩ := rfl
        _ = ⟨x.ns, x.name⟩ := by rw [hclears.1, hns, hyname]
    rw [← hsame]
    exact ⟨pod, hpod, hclears⟩

/-- A store from which just these pods and the services at their addresses are gone is cleaned up. -/
theorem CleanedUp.of_without (hplace : s.PodsInPlace)
    (hpods : s'.pods = s.pods.without (job.discards (job.podsIn s)))
    (hservices : s'.services = s.services.without (job.discards (job.podsIn s))) : job.CleanedUp s s' where
  kept hpolicy := by
    -- Under the policy `None` no phase is cleared.
    have hnone : job.discards (job.podsIn s) = [] := by
      rw [List.eq_nil_iff_forall_not_mem]
      intro x hx
      obtain ⟨pod, -, -, -, -, hphase⟩ := (mem_discards_iff_clears hplace).1 hx
      rw [hpolicy] at hphase
      exact hphase
    rw [hpods, hservices, hnone, Dict.without_nil, Dict.without_nil]
    exact ⟨rfl, rfl⟩
  pods_gone x pod hpod := by
    rw [hpods, Dict.get?_without_eq_none_iff hpod, mem_discards_iff_clears hplace, hpod]
    simp only [Option.some.injEq, exists_eq_left']
  pods_left x pod hpod := by
    rw [hpods] at hpod
    exact Dict.get?_of_without hpod
  services_gone x service hservice := by
    rw [hservices, Dict.get?_without_eq_none_iff hservice, mem_discards_iff_named hplace]
  services_left x service hservice := by
    rw [hservices] at hservice
    exact Dict.get?_of_without hservice

end Job

/-! ## The pods and their services go -/

namespace Controller

variable {α : Type} {now : Timestamp} {job : Job} {c : Controller MemoryStore}

/-- After a deletion that no failure waits for nothing is at the address, be it that there was nothing before. What
follows has to deal with both answers. -/
theorem yields_attempt_delete_of_nil {op : StoreOp} {kind : String} {objects : MemoryStore → Dict Address α}
    {withObjects : MemoryStore → Dict Address α → MemoryStore} {x : Address}
    {next : Except OperatorError Unit → ControllerM MemoryStore Unit}
    {done : Unit → Controller MemoryStore → Prop} {failed : OperatorError → Controller MemoryStore → Prop}
    (hfailures : c.store.failures = [])
    (habsent : (objects c.store).get? x = none → removed objects withObjects x c.store = c.store)
    (hdone : Yields (next (.ok ())) { c with store := removed objects withObjects x c.store } done failed)
    (hgone : ∀ e : OperatorError, e.isNotFound = true →
      Yields (next (.error e)) { c with store := removed objects withObjects x c.store } done failed) :
    Yields (attempt (request (guarded op (delete kind objects withObjects x))) >>= next) c done failed := by
  rw [yields_bind, yields_attempt, yields_request]
  obtain hrun | ⟨e, he, hrun⟩ := @run_delete_of_nil _ op kind _ _ _ _ hfailures habsent
  · rw [hrun]
    exact hdone
  · rw [hrun]
    exact hgone e he

/-- Where nothing is refused, a pod that is to be deleted is gone afterwards, whether it was there or not. -/
theorem store_deletePod_of_nil (key : ExpectationKey) (name : String) (hfailures : c.store.failures = []) :
    Yields (deletePod job key name) c (fun _ c' => c'.store = swept [⟨job.ns, name⟩] [] c.store)
      fun _ _ => False := by
  have hswept : withoutPod ⟨job.ns, name⟩ c.store = swept [⟨job.ns, name⟩] [] c.store := by
    rw [withoutPod_eq, swept, Dict.without_nil]
  -- A pod already absent is as good as deleted: removing it changes nothing.
  apply yields_attempt_delete_of_nil hfailures
  · intro habsent
    change withoutPod ⟨job.ns, name⟩ c.store = c.store
    rw [withoutPod_eq, Dict.without_of_absent habsent]
  · exact hswept
  · intro e he
    simp only [he, if_true]
    exact hswept

/-- The same of a service. -/
theorem store_deleteService_of_nil (name : String) (hfailures : c.store.failures = []) :
    Yields (deleteService job name) c (fun _ c' => c'.store = swept [] [⟨job.ns, name⟩] c.store)
      fun _ _ => False := by
  have hswept : withoutService ⟨job.ns, name⟩ c.store = swept [] [⟨job.ns, name⟩] c.store := by
    rw [withoutService_eq, swept, Dict.without_nil]
  apply yields_attempt_delete_of_nil hfailures
  · intro habsent
    change withoutService ⟨job.ns, name⟩ c.store = c.store
    rw [withoutService_eq, Dict.without_of_absent habsent]
  · exact hswept
  · intro e he
    simp only [he, if_true]
    exact hswept

/-- All the pods go, each with its service, and the rest of the store is as it was. -/
theorem store_cleanUpPods_of_nil (pods : List Pod) (c : Controller MemoryStore) (hfailures : c.store.failures = []) :
    Yields (cleanUpPods job pods) c
      (fun _ c' => c'.store = swept (pods.map fun pod => ⟨job.ns, nameOf pod⟩)
        (pods.map fun pod => ⟨job.ns, nameOf pod⟩) c.store)
      fun _ _ => False := by
  induction pods generalizing c with
  | nil => exact (swept_nil c.store).symm
  | cons pod rest ih =>
    unfold cleanUpPods
    rw [yields_bind]
    refine (store_deletePod_of_nil _ _ hfailures).mono (fun _ c₁ h₁ => ?_) fun _ _ => id
    rw [yields_bind]
    refine (store_deleteService_of_nil _ ?_).mono (fun _ c₂ h₂ => ?_) fun _ _ => id
    · rw [h₁]
      exact hfailures
    -- The pod and its service are gone, and the others go from what is left.
    rw [h₁, swept_swept] at h₂
    refine (ih c₂ ?_).mono (fun _ c₃ h₃ => ?_) fun _ _ => id
    · rw [h₂]
      exact hfailures
    rw [h₂, swept_swept] at h₃
    exact h₃

/-- The pod group, the record and the events of a job that ends have nothing to do with pods and services. -/
theorem sameObjects_conclude (status : JobStatus) (failure : Option String) :
    Keeps SameObjects (conclude now job status failure : ControllerM MemoryStore Outcome) := by
  apply keeps_conclude sameObjects_frame
  · intro c
    have hsame := (effect_deleteJob job.address c.store).sameObjects rfl rfl rfl
    exact ⟨hsame.pods, hsame.services, rfl⟩
  · intro c
    exact sameObjects_updateJobStatus _ c

theorem sameObjects_deletePodGroup (job : Job) :
    Keeps SameObjects (deletePodGroup job : ControllerM MemoryStore Unit) := by
  apply keeps_deletePodGroup sameObjects_frame
  · intro c
    exact ⟨rfl, rfl, rfl⟩
  · intro c
    have hsame := (effect_deletePodGroup ⟨job.ns, podGroupName job.name⟩ c.store).sameObjects rfl rfl rfl
    exact ⟨hsame.pods, hsame.services, rfl⟩

/-- **The end of a job takes away the pods that it has no use for and the services of the same names**, and leaves
all others. -/
theorem without_terminate (pods : List Pod) (status : JobStatus) (failure : Option String)
    (hfailures : c.store.failures = []) :
    Yields (terminate now job pods status failure) c
      (fun _ c' => c'.store.pods = c.store.pods.without (job.discards pods) ∧
        c'.store.services = c.store.services.without (job.discards pods))
      fun _ _ => True := by
  -- What follows the clean-up (the pod group, the record of the job) touches no pod and no service.
  have hrest : ∀ c₁ c₂, c₁.store = swept (job.discards pods) (job.discards pods) c.store → SameObjects c₁ c₂ →
      c₂.store.pods = c.store.pods.without (job.discards pods) ∧
        c₂.store.services = c.store.services.without (job.discards pods) := by
    intro c₁ c₂ hswept hsame
    rw [hsame.pods, hsame.services, hswept]
    exact ⟨rfl, rfl⟩
  rw [terminate_eq, yields_bind]
  refine (store_cleanUpPods_of_nil _ c hfailures).mono (fun _ c₁ h₁ => ?_) fun _ _ _ => trivial
  rw [yields_bind, yields_get]
  split
  · rw [yields_bind]
    refine (sameObjects_deletePodGroup job c₁).mono (fun _ c₂ h₂ => ?_) fun _ _ _ => trivial
    refine (sameObjects_conclude status failure c₂).mono (fun _ c₃ h₃ => ?_) fun _ _ _ => trivial
    exact hrest c₁ c₃ h₁ (sameObjects_frame.trans h₂ h₃)
  · refine (sameObjects_conclude status failure c₁).mono (fun _ c₂ h₂ => ?_) fun _ _ _ => trivial
    exact hrest c₁ c₂ h₁ h₂

end Controller

/-! ## The record of a job that ends -/

namespace ReplicaCounts

/-- The counts are those that a pass takes of the pods in the slots of a replica type. -/
def Counted (n : ReplicaCounts) : Prop := ∃ replicaType spec pods, n = .ofPods (podPlan replicaType spec pods).seated

/-- How the counts of a type end with a job that is done: what was active has succeeded. The sum is a number of 32 bits,
so it is right where it fits, and it fits for all counts that were taken of pods. -/
structure EndsAs (old new : ReplicaCounts) : Prop where
  active : new.active = 0
  failed : new.failed = old.failed
  succeeded : Json.Fits 32 ((old.succeeded : Int) + old.active) ∨ old.Counted →
    (new.succeeded : Int) = old.succeeded + old.active

/-- What was counted of pods can be added up, since there are no more pods in slots than slots. -/
theorem Counted.fits {n : ReplicaCounts} (h : n.Counted) : Json.Fits 32 ((n.succeeded : Int) + n.active) := by
  obtain ⟨replicaType, spec, pods, rfl⟩ := h
  exact fits_succeeded_add_active replicaType spec pods

/-- The counts that are closed end as they should, with the sum in 32 bits. -/
theorem endsAs (n : ReplicaCounts) : n.EndsAs ⟨0, n.succeeded + n.active, n.failed⟩ where
  active := rfl
  failed := rfl
  succeeded h := by
    have hfits : Json.Fits 32 ((n.succeeded : Int) + n.active) := h.elim id Counted.fits
    rw [Int32.toInt_add]
    exact Int.bmod_eq_of_le hfits.1 hfits.2

end ReplicaCounts

namespace Job

variable {now : Timestamp}

/-- The counts with which a job ends: if it is done, the replicas that were still active count as succeeded. They are
added in 32 bits, so a sum that does not fit wraps around (`EndsAs`). -/
def finalCounts (job : Job) : Dict String ReplicaCounts :=
  if job.currentStatus.isSucceeded then
    job.currentStatus.replicaStatuses.mapValues fun n => ⟨0, n.succeeded + n.active, n.failed⟩
  else job.currentStatus.replicaStatuses

/-- Taking a job in counts nothing. -/
theorem replicaStatuses_takenIn (job : Job) (now : Timestamp) :
    (job.takenIn now).replicaStatuses = job.currentStatus.replicaStatuses := by
  unfold takenIn
  simp only
  split
  · rfl
  · rw [JobStatus.replicaStatuses_note]

/-- So the counts of a job that is closed are those that were stored, and closed in turn if it is done. -/
theorem replicaStatuses_closed (job : Job) (now : Timestamp) (failure : Option String) :
    (job.closed now failure).replicaStatuses = job.finalCounts := by
  -- The verdict that decides the settling is the one stored, not the one the limits may add.
  have hsucceeded : (giveUp now failure (job.takenIn now)).isSucceeded = job.currentStatus.isSucceeded := by
    rw [← JobStatus.isSucceeded_settled]
    exact isSucceeded_closed job now failure
  have hcounts : (giveUp now failure (job.takenIn now)).replicaStatuses = job.currentStatus.replicaStatuses := by
    rw [← replicaStatuses_takenIn job now]
    cases failure with
    | none => rfl
    | some message => exact JobStatus.replicaStatuses_note _ _ _ _ _
  unfold closed JobStatus.settled finalCounts
  rw [hsucceeded, ← hcounts]
  split
  · rfl
  · rfl

/-- Each type of a job that is done has its counts closed. -/
theorem finalCounts_of_done {job : Job} (hdone : job.currentStatus.isSucceeded = true) {replicaType : String}
    {old : ReplicaCounts} (hold : job.currentStatus.replicaStatuses.get? replicaType = some old) :
    ∃ new, job.finalCounts.get? replicaType = some new ∧ old.EndsAs new := by
  unfold finalCounts
  rw [if_pos hdone, Dict.get?_mapValues, hold]
  exact ⟨_, rfl, old.endsAs⟩

/-- A pass over the stored job brings it to its end: its spec is acceptable, the pass is not held up, and the job has
its verdict or is found over a limit. -/
def ReachesEnd (stored : Job) (now : Timestamp) (c : Controller MemoryStore) : Prop :=
  let job := stored.withDefaults
  job.spec.fault? = none ∧ ¬ job.HeldUp now c ∧ (job.currentStatus.isFinished = true ∨
    (job.exceeded? (job.podsIn c.store) (c.retries.count job.key) (job.takenIn now) now).isSome = true)

instance (stored : Job) (now : Timestamp) (c : Controller MemoryStore) : Decidable (stored.ReachesEnd now c) :=
  inferInstanceAs (Decidable (_ ∧ _ ∧ _))

/-- To write a status is not to remove the job. -/
theorem written_ne_removed (job : Job) (now : Timestamp) (status : JobStatus) : job.written now status ≠ .removed := by
  unfold written
  split <;> exact Resolution.noConfusion

section Outlook

variable {stored : Job} {c : Controller MemoryStore}

/-- What becomes of the record of a job that a pass brings to its end. -/
theorem outlook_of_end (hend : stored.ReachesEnd now c) :
    stored.outlook now c = stored.withDefaults.ended now (stored.withDefaults.closed now
      (stored.withDefaults.exceeded? (stored.withDefaults.podsIn c.store) (c.retries.count stored.withDefaults.key)
        (stored.withDefaults.takenIn now) now)) := by
  obtain ⟨hvalid, hfree, hreason⟩ := hend
  rw [outlook_of_acceptable hvalid, if_neg hfree]
  unfold resolved
  simp only [isFinished_takenIn]
  exact if_pos (Bool.or_eq_true_iff.2 hreason)

/-- What becomes of the record of a job that a pass attends to without reaching its end. -/
theorem outlook_of_open (hvalid : stored.withDefaults.spec.fault? = none) (hfree : ¬ stored.withDefaults.HeldUp now c)
    (hopen : ¬ stored.ReachesEnd now c) :
    stored.outlook now c = stored.withDefaults.written now
      (stored.withDefaults.assessed now (stored.withDefaults.podsIn c.store)) := by
  rw [outlook_of_acceptable hvalid, if_neg hfree]
  unfold resolved
  simp only [isFinished_takenIn]
  exact if_neg fun hreason => hopen ⟨hvalid, hfree, Bool.or_eq_true_iff.1 hreason⟩

end Outlook

end Job

namespace Controller

variable {key : String} {a : Address} {now : Timestamp} {job stored : Job} {c c' : Controller MemoryStore}

/-- A pass that reaches the end of a job is what it does to bring it there. A pod group may have been made before. -/
theorem yields_sync_of_end {done : Outcome → Controller MemoryStore → Prop}
    {failed : OperatorError → Controller MemoryStore → Prop} (hkey : splitKey? key = some (a.ns, a.name))
    (hstored : c.store.jobs.get? a = some stored) (hend : stored.ReachesEnd now c)
    (hunread : ∀ e rest, takeFailure? .getJob c.store.failures = some (e, rest) →
      failed e { c with store := { c.store with failures := rest } })
    (h : ∀ c₁, SameSurroundings c c₁ →
      Yields (terminate now stored.withDefaults (stored.withDefaults.podsIn c.store) (stored.withDefaults.takenIn now)
        (stored.withDefaults.exceeded? (stored.withDefaults.podsIn c.store)
          (c.retries.count stored.withDefaults.key) (stored.withDefaults.takenIn now) now)) c₁ done failed) :
    Yields (sync now key) c done failed := by
  obtain ⟨hvalid, hfree, hreason⟩ := hend
  refine yields_sync_of_ways hkey hstored hvalid hunread (fun hheld => absurd hheld hfree)
    (fun c₁ failure h₁ hlimit _ => hlimit ▸ h c₁ h₁) fun c₁ _ _ hopen hlimit => ?_
  rw [Job.isFinished_takenIn] at hopen
  obtain hfinished | hover := hreason
  · exact absurd (hfinished.symm.trans hopen) (by decide)
  · rw [hlimit] at hover
    exact absurd hover (by decide)

/-- A pass that attends to a job and does not reach its end brings it in line, from where it is prepared. -/
theorem yields_sync_of_open {done : Outcome → Controller MemoryStore → Prop}
    {failed : OperatorError → Controller MemoryStore → Prop} (hkey : splitKey? key = some (a.ns, a.name))
    (hstored : c.store.jobs.get? a = some stored) (hvalid : stored.withDefaults.spec.fault? = none)
    (hfree : ¬ stored.withDefaults.HeldUp now c) (hopen : ¬ stored.ReachesEnd now c)
    (hunread : ∀ e rest, takeFailure? .getJob c.store.failures = some (e, rest) →
      failed e { c with store := { c.store with failures := rest } })
    (h : Yields (advance now stored.withDefaults (stored.withDefaults.podsIn c.store)
        (stored.withDefaults.servicesIn c.store) (stored.withDefaults.takenIn now))
      (prepared stored.withDefaults c) done failed) :
    Yields (sync now key) c done failed := by
  refine yields_sync_of_acceptable hkey hstored hvalid hunread ?_
  have h₁ := sameSurroundings_prepared stored.withDefaults c
  rw [yields_attend_iff_of_free hfree, yields_reconcileJob_iff, h₁.podsIn_eq, h₁.servicesIn_eq, h₁.retries]
  simp only [Job.isFinished_takenIn]
  rw [if_neg fun hreason => hopen ⟨hvalid, hfree, Bool.or_eq_true_iff.1 hreason⟩]
  exact h

/-- While the store refuses nothing, a job that is brought to its end goes exactly when its time to live is over. If
it stays, it has the counts that are written at the end. -/
theorem Resolved.left_of_ended {status : JobStatus} (h : Resolved a (job.ended now status) c c')
    (hfailures : c.store.failures = []) (hstored : c.store.jobs.get? a = some stored)
    (hknown : stored.currentStatus = job.currentStatus) :
    (c'.store.jobs.get? a = none ↔ job.Expired now status) ∧
      ∀ left, c'.store.jobs.get? a = some left → left.currentStatus.replicaStatuses = status.replicaStatuses := by
  by_cases hexpired : job.Expired now status
  · rw [Job.ended_of_expired hexpired] at h
    have hgone : c'.store.jobs.get? a = none := by
      obtain hjobs | ⟨-, hrefused⟩ := h.record.1
      · rw [hjobs, Dict.get?_erase, if_pos Std.ReflCmp.compare_self]
      · exact absurd hfailures hrefused
    refine ⟨iff_of_true hgone hexpired, ?_⟩
    intro left hleft
    rw [hgone] at hleft
    exact absurd hleft (by simp)
  · rw [Job.ended_of_not_expired hexpired] at h
    constructor
    · refine iff_of_false ?_ hexpired
      by_cases hchanged : status ≠ job.currentStatus
      · rw [show job.written now status = .recorded _ from if_pos hchanged] at h
        obtain ⟨_, _, _, -, hjobs, -⟩ := h.record
        rw [hjobs, Dict.get?_insert_self]
        exact Option.some_ne_none _
      · rw [show job.written now status = .kept from if_neg hchanged] at h
        rw [h.record.1, hstored]
        exact Option.some_ne_none _
    · intro left hleft
      obtain ⟨hstatus, -⟩ := h.left_of_stored hstored hleft
      -- A status is written unless it is the one that is known.
      rw [hstatus, hknown]
      unfold Job.written
      split
      · rfl
      · next hsame =>
        rw [Decidable.not_not.1 hsame]
        rfl

/-- What is left of a job that a pass has ended and not deleted is the same job, with its verdict and the status that
was written at its end. -/
theorem left_of_end {outcome : Outcome} {left : Job} {failure : Option String}
    (hkey : splitKey? key = some (a.ns, a.name)) (hstored : c.store.jobs.get? a = some stored)
    (haddress : stored.address = a) (hend : stored.ReachesEnd now c)
    (hfailure : stored.withDefaults.exceeded? (stored.withDefaults.podsIn c.store)
      (c.retries.count stored.withDefaults.key) (stored.withDefaults.takenIn now) now = failure)
    (hstays : ¬ stored.withDefaults.Expired now (stored.withDefaults.closed now failure))
    (hrun : (sync now key).run c = (.ok outcome, c')) (hleft : c'.store.jobs.get? a = some left) :
    SameJob stored left ∧ left.currentStatus.isFinished = true ∧ left.currentStatus =
      (stored.withDefaults.written now (stored.withDefaults.closed now failure)).statusAfter
        stored.withDefaults.currentStatus := by
  obtain ⟨-, hresolved⟩ := (yields_sync now hkey hstored haddress).ok hrun
  rw [Job.outlook_of_end hend, hfailure, Job.ended_of_not_expired hstays] at hresolved
  obtain ⟨hstatus, hsame⟩ := hresolved.left_of_stored hstored hleft
  change left.currentStatus = Resolution.statusAfter _ stored.withDefaults.currentStatus at hstatus
  refine ⟨hsame, ?_, hstatus⟩
  rw [hstatus, Job.isFinished_written, Job.isFinished_closed, ← hfailure]
  exact Bool.or_eq_true_iff.2 hend.2.2

end Controller

/-! ## A pass that ends a job -/

/-- **What goes with a job that ends.** A pass that brings an acceptable job to its end, while the store refuses
nothing, ends well. Of the pods just those go that the policy of the job cleans up, and of the services just those
that have their names; everything else is as it was. The job itself goes only when its time to live is over. If it is
done and stays, its active replicas are counted as succeeded: of every type the new number is the sum of the old ones,
unless these are so large that 32 bits cannot hold it, as no counts of pods are. -/
theorem clean_up_exact {key : String} {a : Address} {now : Timestamp} {stored : Job} {c : Controller MemoryStore}
    (hkey : splitKey? key = some (a.ns, a.name)) (hstored : c.store.jobs.get? a = some stored)
    (haddress : stored.address = a) (hplace : c.store.PodsInPlace) (hfailures : c.store.failures = [])
    (hend : stored.ReachesEnd now c) :
    let job := stored.withDefaults
    let failure := job.exceeded? (job.podsIn c.store) (c.retries.count job.key) (job.takenIn now) now
    ∃ outcome c', (sync now key).run c = (.ok outcome, c') ∧ stored.CleanedUp c.store c'.store ∧
      (c'.store.jobs.get? a = none ↔ job.Expired now (job.closed now failure)) ∧
      ∀ left, c'.store.jobs.get? a = some left → left.currentStatus.replicaStatuses = stored.finalCounts ∧
        (stored.currentStatus.isSucceeded = true → ∀ replicaType old,
          stored.currentStatus.replicaStatuses.get? replicaType = some old →
            ∃ new, left.currentStatus.replicaStatuses.get? replicaType = some new ∧ old.EndsAs new) := by
  intro job failure
  obtain ⟨hvalid, hfree, hreason⟩ := hend
  subst haddress
  have hpass : Yields (sync now key) c
      (fun _ c' => stored.CleanedUp c.store c'.store ∧
        Resolved stored.address (job.ended now (job.closed now failure)) c c') fun _ _ => False := by
    refine yields_sync_of_ways hkey hstored hvalid ?_ ?_ ?_ ?_
    · intro e rest hrefused
      rw [hfailures] at hrefused
      exact absurd hrefused (by simp [takeFailure?])
    · intro hheld
      exact absurd hheld hfree
    · -- A pod group may have been made before, and the pods and services are as they were.
      intro c₁ reason h₁ hlimit _
      subst hlimit
      have hcalm : Calm job.address c₁ := h₁.toSameRecords.calm ⟨hfailures, stored, hstored⟩
      have hstored₁ : c₁.store.jobs.get? job.address = some stored := h₁.toSameRecords.stored hstored
      refine ((succeeds_terminate hcalm).and ((yields_terminate hstored₁).and
        (without_terminate _ _ _ hcalm.failures))).mono ?_ fun _ _ h => h.1
      rintro _ c' ⟨-, ⟨-, hresolved⟩, hpods, hservices⟩
      rw [h₁.pods] at hpods
      rw [h₁.services] at hservices
      exact ⟨.of_without hplace hpods hservices, h₁.toSameRecords.trans_resolved hresolved⟩
    · intro c₁ _ _ hopen hlimit
      rw [Job.isFinished_takenIn] at hopen
      obtain hfinished | hover := hreason
      · exact absurd (hfinished.symm.trans hopen) (by decide)
      · rw [hlimit] at hover
        exact absurd hover (by decide)
  rcases hrun : (sync now key).run c with ⟨e | outcome, c'⟩
  · exact (hpass.error hrun).elim
  · obtain ⟨hcleaned, hresolved⟩ := hpass.ok hrun
    obtain ⟨hgone, hcounts⟩ := hresolved.left_of_ended hfailures hstored rfl
    refine ⟨outcome, c', rfl, hcleaned, hgone, ?_⟩
    intro left hleft
    have hfinal : left.currentStatus.replicaStatuses = stored.finalCounts := by
      rw [hcounts left hleft, Job.replicaStatuses_closed]
      rfl
    exact ⟨hfinal, fun hdone replicaType old hold => hfinal ▸ Job.finalCounts_of_done hdone hold⟩

/-- A job that is done, of a master and four workers, one of which is going and one of which is in no phase. In the
store is also a pod of another job, and one of a job of the same name in another namespace. -/
def doneInCompany : Controller MemoryStore :=
  let job := sampleJob { cleanPodPolicy := some .running }
    [(masterType, sampleType 1 .never), (workerType, sampleType 4 .never)] (some {
      conditions := [.holding .created Reason.jobCreated "XGBoostJob iris is created." (sampleTime 0),
        .holding .succeeded Reason.jobSucceeded "XGBoostJob iris is successfully completed." (sampleTime 30)]
      replicaStatuses := .ofList [(masterType, { succeeded := 1 }), (workerType, { active := 2, failed := 1 })]
      startTime := some (sampleTime 0)
      completionTime := some (sampleTime 30) })
  let worker (index : Nat) := samplePod workerType index "Running" none
  let elsewhere := { worker 0 with metadata := { (worker 0).metadata with ns := some "other" } }
  let going := { worker 1 with metadata := { (worker 1).metadata with deletionTimestamp := some (sampleTime 31) } }
  let foreign := { worker 0 with metadata := { name := some "bystander", ns := some "default" } }
  let pods := [samplePod masterType 0 "Succeeded" (some 0), worker 0, going, samplePod workerType 2 "Failed" (some 1),
    { worker 3 with status := none }, foreign, elsewhere]
  let services := [sampleService masterType 0, sampleService workerType 0, sampleService workerType 1,
    { sampleService workerType 0 with metadata := { (sampleService workerType 0).metadata with ns := some "other" } }]
  let start := sampleStartWith job pods
  { start with store := { start.store with
    services := .ofList (services.map fun service => (addressOf service, service)) } }

/-- Of all these only the worker that is at work goes, with its service, and it is counted as succeeded. -/
theorem clean_up_exact_inCompany :
    ∃ stored left : Job, ∃ c' : Controller MemoryStore,
      doneInCompany.store.jobs.get? sampleAddress = some stored ∧ stored.ReachesEnd (sampleTime 32) doneInCompany ∧
      doneInCompany.store.PodsInPlace ∧ doneInCompany.store.failures = [] ∧
      stored.CleanedUp doneInCompany.store c'.store ∧
      doneInCompany.store.pods.changesTo c'.store.pods =
        [(⟨"default", slotName "iris" workerType 0⟩, none)] ∧
      doneInCompany.store.services.changesTo c'.store.services =
        [(⟨"default", slotName "iris" workerType 0⟩, none)] ∧
      c'.store.jobs.get? sampleAddress = some left ∧
      left.currentStatus.replicaStatuses =
        .ofList [(masterType, ⟨0, 1, 0⟩), (workerType, ⟨0, 2, 1⟩)] ∧
      ∃ workers, left.currentStatus.replicaStatuses.get? workerType = some workers ∧
        (workers.succeeded : Int) = (0 : Int32) + (2 : Int32) := by
  have hstart : (doneInCompany.store.jobs.get? sampleAddress).map (fun job =>
      (job.address, decide (job.ReachesEnd (sampleTime 32) doneInCompany), job.currentStatus.isSucceeded,
        job.currentStatus.replicaStatuses)) =
      some (sampleAddress, true, true,
        .ofList [(masterType, { succeeded := 1 }), (workerType, { active := 2, failed := 1 })]) := by decide +kernel
  obtain ⟨stored, hstored, hfound⟩ := Option.map_eq_some_iff.1 hstart
  simp only [Prod.mk.injEq, decide_eq_true_eq] at hfound
  obtain ⟨haddress, hend, hsucceeded, hcounts⟩ := hfound
  have hplace : doneInCompany.store.PodsInPlace := by decide +kernel
  have hfailures : doneInCompany.store.failures = [] := by decide +kernel
  -- The theorem gives the store the pass leaves; evaluation only reads it.
  obtain ⟨outcome, c', hrun, hcleaned, -, hleft⟩ := clean_up_exact splitKey?_sampleKey hstored haddress hplace
    hfailures hend
  have hafter : ((sync (sampleTime 32) sampleKey).run doneInCompany).2 = c' := by rw [hrun]
  rcases hjob : c'.store.jobs.get? sampleAddress with _ | left
  · subst hafter
    exact absurd hjob (by decide +kernel)
  · obtain ⟨hfinal, hdone⟩ := hleft left hjob
    refine ⟨stored, left, c', hstored, hend, hplace, hfailures, hcleaned, ?_, ?_, hjob, ?_, ?_⟩
    · subst hafter
      decide +kernel
    · subst hafter
      decide +kernel
    · rw [hfinal, Job.finalCounts, if_pos hsucceeded, hcounts]
      decide +kernel
    · obtain ⟨workers, hworkers, hends⟩ := hdone hsucceeded workerType { active := 2, failed := 1 } (by
        rw [hcounts]
        decide +kernel)
      exact ⟨workers, hworkers, hends.succeeded (.inl (by decide))⟩

end TrainingJobs
