/-
What the backoff limit of a job does to the replacement of its pods.

Once a job has been retried as often as its limit allows, a pass gives it up when more pods have failed than
were counted as failed when its status was last written. **That is not when a pod has newly failed**: a pod
that fails while the one before it is still being replaced makes the count what it was, so its failure goes
unnoticed, and it is replaced as one more retry. `restarts_within_limit_iff` says for every run from the
submission of a job when a pass at the limit replaces pods, and that this is the only way: where a failure is
noticed, the job fails.
-/
import TrainingJobs.Proofs.Limits
import TrainingJobs.Proofs.Seating
import TrainingJobs.Rehearsal

set_option autoImplicit false

namespace TrainingJobs

open Controller

/-! ## Runs -/

/-- What the controller gets to see of the store. -/
inductive Sighting where
  | podAdded (pod : Pod)
  | podDeleted (pod : Pod)
  | serviceAdded (service : Service)
  | serviceDeleted (service : Service)
  | jobDeleted (job : Job)

/-- What the controller makes of it. -/
def Sighting.take (c : Controller MemoryStore) : Sighting → Controller MemoryStore
  | podAdded pod => c.podAdded pod
  | podDeleted pod => c.podDeleted pod
  | serviceAdded service => c.serviceAdded service
  | serviceDeleted service => c.serviceDeleted service
  | jobDeleted job => c.jobDeleted job

/-- One thing that happens while a job is there. -/
inductive Move where
  | pass (now : Timestamp)
  /-- The clock of the store shows another time. -/
  | clock (now : Timestamp)
  /-- A pod comes to another phase. -/
  | phase (b : Address) (phase : String)
  /-- A pod reports another status, with the exit codes of its containers. -/
  | report (b : Address) (status : PodStatus)
  | sight (sighting : Sighting)

/-- Where a move leads. -/
def Move.make (key : String) (c : Controller MemoryStore) : Move → Controller MemoryStore
  | pass now => (c.process now key).2
  | clock now => { c with store := { c.store with clock := now } }
  | phase b text => { c with store := c.store.setPodPhase b text }
  | report b status => { c with store := c.store.setPodStatus b status }
  | sight sighting => sighting.take c

/-- A controller that has done nothing yet, on a store to which the job has just been added. -/
def submitted (config : Config) (store : MemoryStore) (job : Job) : Controller MemoryStore :=
  .new config (store.insertJob job)

/-- Where a run leads. -/
def played (key : String) (moves : List Move) (c : Controller MemoryStore) : Controller MemoryStore :=
  moves.foldl (Move.make key) c

/-- The store refuses nothing, and if there is a job where `job` was submitted, then it is that job. -/
structure Sound (job : Job) (c : Controller MemoryStore) : Prop where
  failures : c.store.failures = []
  record : ∀ stored, c.store.jobs.get? job.address = some stored →
    SameJob job stored ∧ stored.metadata.uid.isSome = true

section Runs

variable {key : String} {job : Job} {c c' : Controller MemoryStore}

/-- A job that was just submitted is in a sound state. -/
theorem sound_submitted (config : Config) {store : MemoryStore} (job : Job) (hfailures : store.failures = []) :
    Sound job (submitted config store job) := by
  refine ⟨hfailures, fun stored hstored => ?_⟩
  unfold submitted Controller.new MemoryStore.insertJob MemoryStore.stamp at hstored
  have haddress := MemoryStore.address_stamped (store.version + 1) store.clock job.metadata
  have hplace : Job.address (HasMetadata.withMetadata job
      (MemoryStore.stamped (store.version + 1) store.clock (HasMetadata.metadata job))) = job.address := haddress
  simp only at hstored
  rw [hplace, Dict.get?_insert_self, Option.some.injEq] at hstored
  subst hstored
  have huid := MemoryStore.isSome_uid_stamped (store.version + 1) store.clock job.metadata
  refine ⟨⟨rfl, haddress, ?_, fun _ => huid⟩, huid⟩
  exact congrArg Option.isSome (MemoryStore.deletionTimestamp_stamped _ _ _)

/-- Soundness is about the failures and the records of jobs alone. -/
theorem Sound.of_same (h : Sound job c) (hfailures : c'.store.failures = c.store.failures)
    (hjobs : c'.store.jobs = c.store.jobs) : Sound job c' where
  failures := hfailures.trans h.failures
  record := by
    rw [hjobs]
    exact h.record

/-- How a pass is rescheduled does not matter to the store. -/
theorem store_process (now : Timestamp) (key : String) (c : Controller MemoryStore) :
    (c.process now key).2.store = ((sync now key).run c).2.store := by
  unfold process
  rcases (sync now key).run c with ⟨e | outcome, c'⟩
  · rfl
  · cases outcome <;> rfl

theorem config_process (now : Timestamp) (key : String) (c : Controller MemoryStore) :
    (c.process now key).2.config = ((sync now key).run c).2.config := by
  unfold process
  rcases (sync now key).run c with ⟨e | outcome, c'⟩
  · rfl
  · cases outcome <;> rfl

/-- A pass lines up no failure, and what it makes of the job is still that job. -/
theorem Sound.pass (h : Sound job c) (hkey : splitKey? key = some (job.ns, job.name)) (now : Timestamp) :
    Sound job ((sync now key).run c).2 := by
  have hnone : ∀ {failures : List (StoreOp × OperatorError)}, failures.Sublist c.store.failures →
      failures = [] := by
    intro failures hsub
    rw [h.failures] at hsub
    exact List.sublist_nil.1 hsub
  rcases hstored : c.store.jobs.get? job.address with _ | stored
  · -- A job that has been deleted does not come back.
    have hsame := sameRecords_sync_of_absent now hkey hstored
    exact h.of_same ((hnone hsame.failures).trans h.failures.symm) hsame.jobs
  · obtain ⟨hjob, huid⟩ := h.record stored hstored
    have hpass := yields_sync now hkey hstored hjob.address
    rcases hrun : (sync now key).run c with ⟨e | outcome, c'⟩
    · have hsame := hpass.error hrun
      exact h.of_same ((hnone hsame.failures).trans h.failures.symm) hsame.jobs
    · have hresolved := (hpass.ok hrun).2
      refine ⟨hnone hresolved.failures, fun stored' hstored' => ?_⟩
      obtain ⟨-, hsame⟩ := hresolved.left_of_stored hstored hstored'
      exact ⟨hjob.trans hsame, hsame.uid huid⟩

/-- The watch tells the controller of changes, and changes nothing itself. -/
theorem take_leaves (sighting : Sighting) (c : Controller MemoryStore) :
    (sighting.take c).store = c.store ∧ (sighting.take c).config = c.config := by
  have hcreation : ∀ {α : Type} [HasMetadata α] (kind : Controllee) (object : α),
      (c.observeCreation kind object).store = c.store ∧ (c.observeCreation kind object).config = c.config := by
    intro α _ kind object
    unfold observeCreation
    split <;> exact ⟨rfl, rfl⟩
  have hdeletion : ∀ {α : Type} [HasMetadata α] (kind : Controllee) (object : α),
      (c.observeDeletion kind object).store = c.store ∧ (c.observeDeletion kind object).config = c.config := by
    intro α _ kind object
    unfold observeDeletion
    split <;> exact ⟨rfl, rfl⟩
  -- A pod being deleted counts as gone when it is seen, hence the split in the first case.
  cases sighting with
  | podAdded pod =>
    change (if pod.isLeaving then _ else _ : Controller MemoryStore).store = _ ∧
      (if pod.isLeaving then _ else _ : Controller MemoryStore).config = _
    split
    · exact hdeletion _ _
    · exact hcreation _ _
  | podDeleted pod => exact hdeletion _ _
  | serviceAdded service => exact hcreation _ _
  | serviceDeleted service => exact hdeletion _ _
  | jobDeleted gone => exact ⟨rfl, rfl⟩

/-- What is seen by the watch was in the store before. -/
theorem store_take (sighting : Sighting) (c : Controller MemoryStore) : (sighting.take c).store = c.store :=
  (take_leaves sighting c).1

/-- Every move keeps things sound. -/
theorem Sound.move (h : Sound job c) (hkey : splitKey? key = some (job.ns, job.name)) (m : Move) :
    Sound job (m.make key c) := by
  -- Only a pass writes to the job; the others touch pods or what was seen of them.
  cases m with
  | pass now =>
    have hsync := h.pass hkey now
    have hstore := store_process now key c
    exact hsync.of_same (congrArg _ hstore) (congrArg _ hstore)
  | clock now => exact h.of_same rfl rfl
  | phase b text => refine h.of_same ?_ ?_ <;> simp only [Move.make, MemoryStore.setPodPhase] <;> split <;> rfl
  | report b status =>
    refine h.of_same ?_ ?_ <;> simp only [Move.make, MemoryStore.setPodStatus] <;> split <;> rfl
  | sight sighting => exact h.of_same (congrArg _ (store_take sighting c)) (congrArg _ (store_take sighting c))

/-- Every run from a submission is sound. -/
theorem sound_played (hkey : splitKey? key = some (job.ns, job.name)) (moves : List Move)
    (h : Sound job c) : Sound job (played key moves c) := by
  unfold played
  induction moves generalizing c with
  | nil => exact h
  | cons m rest ih => exact ih (h.move hkey m)

/-- A pod that is put where a seated pod is, and says so, is seated. -/
theorem Job.Seated.insert {s s' : MemoryStore} {b : Address} {old pod : Pod} (h : job.Seated s)
    (hold : s.pods.get? b = some old) (haddress : pod.metadata.address = b)
    (hpods : s'.pods = s.pods.insert b pod) : job.Seated s' := by
  intro b' pod' hpod'
  rw [hpods] at hpod'
  by_cases hb : b' = b
  · subst hb
    rw [Dict.get?_insert_self, Option.some.injEq] at hpod'
    subst hpod'
    exact ⟨haddress, (h b' old hold).2⟩
  · rw [Dict.get?_insert_ne _ _ hb] at hpod'
    exact h b' pod' hpod'

/-- Every move of a sound run keeps the pods seated. -/
theorem Job.Seated.move (h : job.withDefaults.Seated c.store) (hsound : Sound job c)
    (hkey : splitKey? key = some (job.ns, job.name)) (hvalid : job.withDefaults.spec.fault? = none) (m : Move) :
    job.withDefaults.Seated (m.make key c).store := by
  cases m with
  | pass now =>
    rw [show (Move.pass now).make key c = (c.process now key).2 from rfl, store_process]
    rcases hstored : c.store.jobs.get? job.address with _ | stored
    · have hsync : Yields (sync now key) c (fun _ c' => SeatsKept job.withDefaults c c')
          fun _ c' => SeatsKept job.withDefaults c c' :=
        yields_sync_of_absent hkey hstored (fun _ _ _ => id) id
      exact hsync.run h
    · obtain ⟨hjob, -⟩ := hsound.record stored hstored
      have hspec : stored.withDefaults.spec = job.withDefaults.spec := congrArg JobSpec.withDefaults hjob.spec
      have hkept := seatsKept_sync now hkey hstored (hspec ▸ hvalid)
      unfold SeatsKept Seated at hkept
      rw [hjob.slotAddresses_eq] at hkept
      exact hkept h
  | clock now => exact h
  | phase b text =>
    simp only [Move.make, MemoryStore.setPodPhase]
    split
    · exact h
    · next pod hpod =>
      refine h.insert hpod ?_ rfl
      exact (h b pod hpod).1
  | report b status =>
    simp only [Move.make, MemoryStore.setPodStatus]
    split
    · -- The pod is put where it says it is, and a seated pod says so truly.
      next pod hpod =>
      obtain ⟨rfl, -⟩ := h b pod hpod
      refine h.insert hpod ?_ (MemoryStore.pods_insertPod _ _)
      exact MemoryStore.address_stamped _ _ _
    · exact h
  | sight sighting =>
    rw [show (Move.sight sighting).make key c = sighting.take c from rfl, store_take]
    exact h

/-- A run whose pods are seated at the start keeps them seated. -/
theorem seated_played (hkey : splitKey? key = some (job.ns, job.name))
    (hvalid : job.withDefaults.spec.fault? = none) (moves : List Move) (hsound : Sound job c)
    (h : job.withDefaults.Seated c.store) : job.withDefaults.Seated (played key moves c).store := by
  unfold played
  -- Soundness goes along: a pass needs it to keep the pods seated.
  induction moves generalizing c with
  | nil => exact h
  | cons m rest ih => exact ih (hsound.move hkey m) (h.move hsound hkey hvalid m)

end Runs

/-! ## At the limit -/

namespace Job

/-- The failed pods of a job go unnoticed: there are no more of them than were counted when its status was last
written, or as many pods are active as the job asks for. -/
def Unnoticed (job : Job) (pods : List Pod) : Prop :=
  .ofNat (phaseCount "Failed" pods) ≤ job.currentStatus.failedCount ∨
    .ofNat (pods.countP Pod.isActive) = job.totalReplicas

/-- A pass over a job that has used up its retries replaces a pod all the same. -/
structure SlipsThrough (job : Job) (limit : Int) (now : Timestamp) (c : Controller MemoryStore) : Prop where
  free : ¬ job.HeldUp now c
  unfinished : job.currentStatus.isFinished = false
  inTime : ¬ job.PastDeadline now
  restarts : ∃ e ∈ job.spec.replicaSpecs.entries, (podPlan e.1 e.2 (job.podsIn c.store)).restarts ≠ []
  /-- Restarts in place have not used up the retries by themselves. -/
  inPlace : job.restartsPastLimit (job.podsIn c.store) limit = false
  /-- No failure is noticed. -/
  unnoticed : job.Unnoticed (job.podsIn c.store)

variable {job stored : Job} {now : Timestamp} {pods : List Pod} {retries : Nat} {limit : Int}
  {c : Controller MemoryStore}

/-- Where the retries are used up, one failure too many is one that is noticed. -/
theorem failuresPastLimit_iff (hretries : limit ≤ retries) :
    job.failuresPastLimit pods retries limit = true ↔ ¬ job.Unnoticed pods := by
  unfold failuresPastLimit Unnoticed
  rw [Bool.and_eq_true, Bool.and_eq_true, decide_eq_true_eq, decide_eq_true_eq, decide_eq_true_eq, not_or,
    Int32.not_le, and_iff_left (Int.lt_add_one_iff.2 hretries)]

/-- A job whose retries are used up gets pods replaced exactly when their failure slips through. -/
theorem backsOff_iff_slipsThrough (hvalid : stored.withDefaults.spec.fault? = none)
    (hlimit : stored.withDefaults.spec.runPolicy.backoffLimit = some limit)
    (hretries : limit ≤ c.retries.count stored.withDefaults.key) :
    stored.BacksOff now c ↔ stored.withDefaults.SlipsThrough limit now c := by
  -- The other half of the backoff limit, restarts in place, does not look at the retries.
  have hbackoff : stored.withDefaults.PastBackoff (stored.withDefaults.podsIn c.store)
      (c.retries.count stored.withDefaults.key) ↔
      ¬ stored.withDefaults.Unnoticed (stored.withDefaults.podsIn c.store) ∨
        stored.withDefaults.restartsPastLimit (stored.withDefaults.podsIn c.store) limit = true := by
    unfold PastBackoff
    rw [hlimit]
    simp only [Option.some.injEq, exists_eq_left', failuresPastLimit_iff hretries]
  unfold BacksOff Restarts
  simp only
  rw [exceeded?_eq_none_iff, hbackoff, not_or, Classical.not_not, Bool.not_eq_true, isFinished_takenIn]
  constructor
  · rintro ⟨-, hfree, hopen, ⟨⟨hunnoticed, hinPlace⟩, hdeadline⟩, hrestarts⟩
    exact ⟨hfree, hopen, hdeadline, hrestarts, hinPlace, hunnoticed⟩
  · intro h
    exact ⟨hvalid, h.free, h.unfinished, ⟨⟨h.unnoticed, h.inPlace⟩, h.inTime⟩, h.restarts⟩

/-- A failure that is noticed where the retries are used up is the end of the job: it is given up, or deleted
at once. -/
theorem isFailed_of_noticed {key : String} {a : Address} {c' : Controller MemoryStore} {outcome : Outcome}
    {after : Job} (hkey : splitKey? key = some (a.ns, a.name)) (hstored : c.store.jobs.get? a = some stored)
    (haddress : stored.address = a) (hvalid : stored.withDefaults.spec.fault? = none)
    (hlimit : stored.withDefaults.spec.runPolicy.backoffLimit = some limit)
    (hretries : limit ≤ c.retries.count stored.withDefaults.key) (hfailures : c.store.failures = [])
    (hfree : ¬ stored.withDefaults.HeldUp now c)
    (hnoticed : ¬ stored.withDefaults.Unnoticed (stored.withDefaults.podsIn c.store))
    (hrun : (sync now key).run c = (.ok outcome, c')) (hafter : c'.store.jobs.get? a = some after) :
    after.currentStatus.isFailed = true := by
  have hresolved := ((yields_sync now hkey hstored haddress).ok hrun).2
  have hpast : (stored.withDefaults.exceeded? (stored.withDefaults.podsIn c.store)
      (c.retries.count stored.withDefaults.key) (stored.withDefaults.takenIn now) now).isSome = true :=
    exceeded?_isSome_iff.2 (.inl ⟨limit, hlimit, .inl ((failuresPastLimit_iff hretries).2 hnoticed)⟩)
  unfold outlook resolved at hresolved
  simp only at hresolved
  rw [hvalid] at hresolved
  simp only at hresolved
  rw [if_neg hfree, hpast, Bool.or_true, if_pos rfl] at hresolved
  generalize stored.withDefaults.exceeded? (stored.withDefaults.podsIn c.store)
    (c.retries.count stored.withDefaults.key) (stored.withDefaults.takenIn now) now = failure at hresolved hpast
  by_cases hexpired : stored.withDefaults.Expired now (stored.withDefaults.closed now failure)
  · -- The store refuses nothing, so a job that is deleted is gone.
    rw [ended_of_expired hexpired] at hresolved
    rcases hresolved.record.1 with hjobs | ⟨-, hsome⟩
    · rw [hjobs, Dict.get?_erase, if_pos Std.ReflCmp.compare_self] at hafter
      exact absurd hafter (by simp)
    · exact absurd hfailures hsome
  · rw [ended_of_not_expired hexpired] at hresolved
    rw [(hresolved.left_of_stored hstored hafter).1]
    have hfailed := (verdict_written stored.withDefaults now (stored.withDefaults.closed now failure)).2
    rw [isFailed_closed, hpast, Bool.or_true] at hfailed
    exact hfailed

end Job

/-- A pass over the job at `a` deletes a pod although the job is not at its end. -/
def Replaces (key : String) (a : Address) (now : Timestamp) (c : Controller MemoryStore) : Prop :=
  ∃ stored, c.store.jobs.get? a = some stored ∧ stored.withDefaults.currentStatus.isFinished = false ∧
    stored.withDefaults.exceeded? (stored.withDefaults.podsIn c.store) (c.retries.count key)
      (stored.withDefaults.takenIn now) now = none ∧
    ∃ b, c.store.pods.contains b = true ∧ ((sync now key).run c).2.store.pods.contains b = false

section Sound

variable {key : String} {job stored : Job} {now : Timestamp} {c : Controller MemoryStore}

/-- What is asked for is what was submitted. -/
theorem Sound.spec_eq (h : Sound job c) (hstored : c.store.jobs.get? job.address = some stored) :
    stored.withDefaults.spec = job.withDefaults.spec :=
  congrArg JobSpec.withDefaults (h.record stored hstored).1.spec

/-- A pass over the job that was submitted ends well. -/
theorem Sound.exists_run (h : Sound job c) (hkey : splitKey? key = some (job.ns, job.name))
    (hvalid : job.withDefaults.spec.fault? = none) (hstored : c.store.jobs.get? job.address = some stored)
    (now : Timestamp) : ∃ outcome c', (sync now key).run c = (.ok outcome, c') := by
  obtain ⟨hjob, huid⟩ := h.record stored hstored
  have hends := succeeds_sync now hkey hstored hjob.address (h.spec_eq hstored ▸ hvalid) huid h.failures
  rcases hrun : (sync now key).run c with ⟨e | outcome, c'⟩
  · exact (hends.error hrun).elim
  · exact ⟨outcome, c', rfl⟩

/-- A pass replaces no pod and asks for no retry exactly when it does not get to replace one. -/
theorem Sound.replaces_none_iff (h : Sound job c) (hkey : splitKey? key = some (job.ns, job.name))
    (hvalid : job.withDefaults.spec.fault? = none) :
    (∃ outcome, ((sync now key).run c).1 = .ok outcome ∧ outcome ≠ .backoff) ∧
        ¬ Replaces key job.address now c ↔
      ∀ stored, c.store.jobs.get? job.address = some stored → ¬ stored.BacksOff now c := by
  rcases hstored : c.store.jobs.get? job.address with _ | stored
  · -- A job that is gone has no pods to be replaced.
    have hends : Yields (sync now key) c (fun outcome _ => outcome = .done) fun _ _ => False := by
      refine yields_sync_of_absent hkey hstored (fun e rest hfailure => ?_) rfl
      rw [h.failures] at hfailure
      exact absurd hfailure (by simp [MemoryStore.takeFailure?])
    refine iff_of_true ⟨?_, ?_⟩ (by simp)
    · rcases hrun : (sync now key).run c with ⟨e | outcome, c'⟩
      · exact (hends.error hrun).elim
      · exact ⟨outcome, rfl, by rw [hends.ok hrun]; exact Outcome.noConfusion⟩
    · rintro ⟨stored, hsome, -⟩
      rw [hstored] at hsome
      exact absurd hsome (by simp)
  · obtain ⟨outcome, c', hrun⟩ := h.exists_run hkey hvalid hstored now
    have haddress := (h.record stored hstored).1.address
    have hbackoff := backoff_iff hkey hstored haddress hrun
    simp only [Option.some.injEq, forall_eq']
    constructor
    · rintro ⟨⟨outcome', houtcome, hne⟩, -⟩ hbacksOff
      rw [hrun, Except.ok.injEq] at houtcome
      exact hne (houtcome ▸ hbackoff.2 hbacksOff)
    · intro hnone
      refine ⟨⟨outcome, by rw [hrun], fun hsame => hnone (hbackoff.1 hsame)⟩, ?_⟩
      -- A pod that goes before the end of the job would have been replaced.
      rintro ⟨found, hfound, hopen, hlimit, b, hbefore, hafter⟩
      rw [hstored, Option.some.injEq] at hfound
      subst hfound
      have hkept := podsKept_sync hkey hstored (h.spec_eq hstored ▸ hvalid)
        ((Job.isFinished_takenIn _ _).trans hopen) (key_eq_of_splitKey? hkey haddress ▸ hlimit) hnone b hbefore
      rw [hafter] at hkept
      exact Bool.noConfusion hkept

end Sound

/-- **In every run from the submission of an acceptable job on a store that refuses nothing, a pass at a time
when the retries are used up replaces no pod and asks for no retry exactly as long as no failure slips
through.** A failure that is noticed fails the job; and where no negative number of replicas is asked for, the
only one that goes unnoticed is one that does not raise the number of failed pods over what was counted. -/
theorem restarts_within_limit_iff {key : String} {config : Config} {store : MemoryStore} {job : Job}
    {limit : Int} {moves : List Move} {now : Timestamp} {c : Controller MemoryStore}
    (hkey : splitKey? key = some (job.ns, job.name)) (hvalid : job.withDefaults.spec.fault? = none)
    (hlimit : job.spec.runPolicy.backoffLimit = some limit) (hfailures : store.failures = [])
    (hplayed : played key moves (submitted config store job) = c) (hretries : limit ≤ c.retries.count key) :
    ((∃ outcome, ((sync now key).run c).1 = .ok outcome ∧ outcome ≠ .backoff) ∧
        ¬ Replaces key job.address now c ↔
      ∀ stored, c.store.jobs.get? job.address = some stored →
        ¬ stored.withDefaults.SlipsThrough limit now c) ∧
    (∀ stored after, c.store.jobs.get? job.address = some stored → ¬ stored.withDefaults.HeldUp now c →
      ¬ stored.withDefaults.Unnoticed (stored.withDefaults.podsIn c.store) →
        ((sync now key).run c).2.store.jobs.get? job.address = some after →
          after.currentStatus.isFailed = true) ∧
    (job.withDefaults.Seated store → (∀ e ∈ job.withDefaults.spec.replicaSpecs.entries, 0 ≤ e.2.count) →
      ∀ stored, c.store.jobs.get? job.address = some stored → stored.withDefaults.SlipsThrough limit now c →
        .ofNat (phaseCount "Failed" (stored.withDefaults.podsIn c.store)) ≤ stored.currentStatus.failedCount) := by
  have hsubmitted := sound_submitted config job hfailures
  have hsound : Sound job c := hplayed ▸ sound_played hkey moves hsubmitted
  -- Whatever has happened in between, the limit is the one that was submitted.
  have hlimit' : ∀ stored, c.store.jobs.get? job.address = some stored →
      stored.withDefaults.spec.runPolicy.backoffLimit = some limit := by
    intro stored hstored
    rw [hsound.spec_eq hstored]
    exact hlimit
  have hretries' : ∀ stored, c.store.jobs.get? job.address = some stored →
      limit ≤ c.retries.count stored.withDefaults.key := by
    intro stored hstored
    rw [show stored.withDefaults.key = key from
      key_eq_of_splitKey? hkey (hsound.record stored hstored).1.address]
    exact hretries
  refine ⟨?_, ?_, ?_⟩
  · rw [hsound.replaces_none_iff hkey hvalid]
    refine forall_congr' fun stored => imp_congr_right fun hstored => not_congr ?_
    exact Job.backsOff_iff_slipsThrough (hsound.spec_eq hstored ▸ hvalid) (hlimit' stored hstored)
      (hretries' stored hstored)
  · intro stored after hstored hfree hnoticed hafter
    obtain ⟨outcome, c', hrun⟩ := hsound.exists_run hkey hvalid hstored now
    rw [hrun] at hafter
    exact Job.isFailed_of_noticed hkey hstored (hsound.record stored hstored).1.address
      (hsound.spec_eq hstored ▸ hvalid) (hlimit' stored hstored) (hretries' stored hstored) hsound.failures
      hfree hnoticed hrun hafter
  · intro hseated hcounts stored hstored hslips
    -- The pods of the run never outnumber the slots, so the failed one is missing among the active ones.
    have hplaced : job.withDefaults.Seated c.store :=
      hplayed ▸ seated_played hkey hvalid moves hsubmitted hseated
    unfold Job.Seated at hplaced
    rw [← (hsound.record stored hstored).1.slotAddresses_eq] at hplaced
    have hfewer := Job.Seated.active_ne_total (hsound.spec_eq hstored ▸ hvalid) hplaced
      (hsound.spec_eq hstored ▸ hcounts) hslips.restarts
    exact hslips.unnoticed.resolve_right hfewer

/-- A job of a master and two workers that are replaced by exit code, with one retry. -/
def retriedOnce : Job :=
  sampleJob { backoffLimit := some 1 }
    [(masterType, sampleType 1 .exitCode), (workerType, sampleType 2 .exitCode)] none

/-- The status of a pod that was killed. -/
def killed : PodStatus := { phase := some "Failed", containerStatuses := some [sampleReport (some 137)] }

/-- The job is submitted and runs. Its first worker is killed and taken away by the pass after that, and before
the next pass the second worker is killed, too. -/
def killedInTurn : List Move :=
  let begun := played sampleKey [.pass (sampleTime 1)] (submitted {} { clock := ⟨0⟩ } retriedOnce)
  let first : Address := ⟨"default", slotName "iris" workerType 0⟩
  [.pass (sampleTime 1)] ++ begun.store.pods.values.map (fun pod => .sight (.podAdded pod)) ++
    begun.store.services.values.map (fun service => .sight (.serviceAdded service)) ++
    begun.store.pods.keys.map (fun b => .phase b "Running") ++
    [.pass (sampleTime 2), .report first killed, .pass (sampleTime 3)] ++
    (begun.store.pods.get? first).toList.map (fun pod => .sight (.podDeleted pod)) ++
    [.report ⟨"default", slotName "iris" workerType 1⟩ killed]

/-- Where that leads: the one retry is used up. -/
def retryUsedUp : Controller MemoryStore :=
  played sampleKey killedInTurn (submitted {} { clock := ⟨0⟩ } retriedOnce)

/-- What the next pass does is decided by whether the second failure slips through. -/
theorem restarts_within_limit_iff_retryUsedUp :
    (1 : Int) ≤ retryUsedUp.retries.count sampleKey ∧
      ((∃ outcome, ((sync (sampleTime 4) sampleKey).run retryUsedUp).1 = .ok outcome ∧ outcome ≠ .backoff) ∧
          ¬ Replaces sampleKey retriedOnce.address (sampleTime 4) retryUsedUp ↔
        ∀ stored, retryUsedUp.store.jobs.get? retriedOnce.address = some stored →
          ¬ stored.withDefaults.SlipsThrough 1 (sampleTime 4) retryUsedUp) := by
  have hkey : splitKey? sampleKey = some (retriedOnce.ns, retriedOnce.name) := by decide +kernel
  have hvalid : retriedOnce.withDefaults.spec.fault? = none := by decide +kernel
  have hlimit : retriedOnce.spec.runPolicy.backoffLimit = some 1 := rfl
  have hfailures : ({ clock := ⟨0⟩ } : MemoryStore).failures = [] := rfl
  have hplayed : played sampleKey killedInTurn (submitted {} { clock := ⟨0⟩ } retriedOnce) = retryUsedUp := rfl
  have hretries : (1 : Int) ≤ retryUsedUp.retries.count sampleKey := by decide +kernel
  exact ⟨hretries, (restarts_within_limit_iff hkey hvalid hlimit hfailures hplayed hretries).1⟩

/-- The next pass takes the second worker away and asks for another retry, although there was only one. -/
theorem retry_past_limit :
    (1 : Int) ≤ retryUsedUp.retries.count sampleKey ∧
      ((sync (sampleTime 4) sampleKey).run retryUsedUp).1.toOption = some .backoff ∧
      retryUsedUp.store.pods.contains ⟨"default", slotName "iris" workerType 1⟩ = true ∧
      ((sync (sampleTime 4) sampleKey).run retryUsedUp).2.store.pods.contains
        ⟨"default", slotName "iris" workerType 1⟩ = false := by
  decide +kernel

end TrainingJobs
