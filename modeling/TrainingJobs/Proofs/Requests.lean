/-
What one request makes of a store in memory.

A request is taken by the first failure that was lined up for it, or turned down because the object is there
already or is gone, or it makes its one change; which of them it is shows in what is answered (`Reply`). Where the
answer does not matter a request has one `Effect`, named by the change that it makes when it is not refused.
-/
import TrainingJobs.Proofs.Steps
import TrainingJobs.Store.Memory

set_option autoImplicit false

namespace TrainingJobs

namespace MemoryStore

/-- What is left of a store by a request that makes `change` unless it is refused. -/
inductive Effect (change : MemoryStore → MemoryStore) (s : MemoryStore) : MemoryStore → Prop
  /-- It was refused, or there was nothing to change. -/
  | refused (failures : List (StoreOp × OperatorError)) (h : failures.Sublist s.failures) :
    Effect change s { s with failures := failures }
  | made : Effect change s (change s)

/-- The failure that an operation takes is the first one that waits for it, and the others stay in line. -/
theorem exists_of_takeFailure? {op : StoreOp} {failures rest : List (StoreOp × OperatorError)}
    {e : OperatorError} (h : takeFailure? op failures = some (e, rest)) :
    ∃ before after, failures = before ++ (op, e) :: after ∧ rest = before ++ after ∧ ∀ f ∈ before, f.1 ≠ op := by
  induction failures generalizing rest with
  | nil => simp [takeFailure?] at h
  | cons f others ih =>
    rw [takeFailure?] at h
    split at h
    · next hf =>
      simp only [Option.some.injEq, Prod.mk.injEq] at h
      refine ⟨[], others, ?_, h.2.symm, by simp⟩
      rw [List.nil_append, ← hf, ← h.1]
    · -- The first of the line waits for another operation, and keeps its place.
      next hf =>
      obtain ⟨⟨e', rest'⟩, hrest, heq⟩ := Option.map_eq_some_iff.1 h
      simp only [Prod.mk.injEq] at heq
      obtain ⟨before, after, rfl, hleft, hbefore⟩ := ih (heq.1 ▸ hrest)
      refine ⟨f :: before, after, rfl, ?_, List.forall_mem_cons.2 ⟨hf, hbefore⟩⟩
      rw [← heq.2, hleft, List.cons_append]

/-- Taking a failure out of the line leaves the others. -/
theorem takeFailure?_sublist {op : StoreOp} {failures rest : List (StoreOp × OperatorError)}
    {e : OperatorError} (h : takeFailure? op failures = some (e, rest)) : rest.Sublist failures := by
  obtain ⟨before, after, rfl, rfl, -⟩ := exists_of_takeFailure? h
  exact (List.sublist_cons_self _ after).append_left before

/-- Where no failure waits for the operation, it is not refused. -/
theorem takeFailure?_eq_none {op : StoreOp} {failures : List (StoreOp × OperatorError)}
    (h : ∀ f ∈ failures, f.1 ≠ op) : takeFailure? op failures = none := by
  induction failures with
  | nil => rfl
  | cons f rest ih =>
    obtain ⟨hf, hrest⟩ := List.forall_mem_cons.1 h
    rw [takeFailure?, if_neg hf, ih hrest]
    rfl

variable {α : Type}

/-- A guarded operation ends with the first failure that waits for it, which is used up, and runs if there is none. -/
theorem run_guarded (op : StoreOp) (run : StoreM MemoryStore α) (s : MemoryStore) :
    (guarded op run).run s =
      match takeFailure? op s.failures with
      | some (error, rest) => (.error error, { s with failures := rest })
      | none => run.run s := by
  change (match takeFailure? op s.failures with
    | some (error, rest) => _
    | none => run : StoreM MemoryStore α) s = _
  cases takeFailure? op s.failures <;> rfl

/-- Where no failures wait, the guard makes no difference. -/
theorem run_guarded_of_nil (op : StoreOp) (run : StoreM MemoryStore α) {s : MemoryStore}
    (h : s.failures = []) : (guarded op run).run s = run.run s := by
  rw [run_guarded, h]
  rfl

/-- How a request can end that waits for `op?`: a failure takes it, or there is an objection, or the store becomes
`changed`. -/
inductive Reply {α : Type} (op? : Option StoreOp) (objection? : Option OperatorError) (changed s : MemoryStore) :
    Except OperatorError α × MemoryStore → Prop
  /-- The first failure that waits for the operation is taken out of the line. -/
  | injected {op : StoreOp} {e : OperatorError} {before after : List (StoreOp × OperatorError)}
      (hop : op? = some op) (hbefore : ∀ f ∈ before, f.1 ≠ op) (hline : s.failures = before ++ (op, e) :: after) :
      Reply op? objection? changed s (.error e, { s with failures := before ++ after })
  /-- What is stored speaks against it. -/
  | objected {e : OperatorError} (he : objection? = some e) : Reply op? objection? changed s (.error e, s)
  | agreed (answer : α) (hagreed : objection? = none) : Reply op? objection? changed s (.ok answer, changed)

section Replies

variable {op? : Option StoreOp} {op : StoreOp} {objection? : Option OperatorError} {changed s : MemoryStore}

theorem reply_guarded {run : StoreM MemoryStore α} (hrun : Reply (some op) objection? changed s (run.run s)) :
    Reply (some op) objection? changed s ((guarded op run).run s) := by
  rw [run_guarded]
  split
  · next e rest hfailure =>
    obtain ⟨before, after, hline, rfl, hbefore⟩ := exists_of_takeFailure? hfailure
    exact .injected rfl hbefore hline
  · exact hrun

/-- A request that ends in an error changes nothing but the line of failures, and that by one failure of its own. -/
theorem Reply.of_error {e : OperatorError} {s' : MemoryStore}
    (h : Reply op? objection? changed s ((.error e, s') : Except OperatorError α × MemoryStore)) :
    s' = { s with failures := s'.failures } ∧
      ((s'.failures = s.failures ∧ objection? = some e) ∨
        ∃ op before after, op? = some op ∧ (∀ f ∈ before, f.1 ≠ op) ∧ s.failures = before ++ (op, e) :: after ∧
          s'.failures = before ++ after) := by
  cases h with
  | injected hop hbefore hline => exact ⟨rfl, .inr ⟨_, _, _, hop, hbefore, hline, rfl⟩⟩
  | objected he => exact ⟨rfl, .inl ⟨rfl, he⟩⟩

/-- Whatever the reply is, the store is as it was, apart from the failure that was used up, or changed as asked. -/
theorem Reply.effect {change : MemoryStore → MemoryStore} {result : Except OperatorError α × MemoryStore}
    (h : Reply op? objection? (change s) s result) : Effect change s result.2 := by
  cases h with
  | injected _ _ hline =>
    refine .refused _ ?_
    rw [hline]
    exact (List.sublist_cons_self _ _).append_left _
  | objected => exact .refused s.failures (List.Sublist.refl _)
  | agreed => exact .made

end Replies

/-- What the change leaves alone is left alone by the request. -/
theorem Effect.pods_eq {change : MemoryStore → MemoryStore} {s s' : MemoryStore} (h : Effect change s s')
    (hchange : (change s).pods = s.pods) : s'.pods = s.pods := by
  cases h with
  | refused => rfl
  | made => exact hchange

/-- A change that leaves the jobs alone leaves them alone, whether it is made or refused. -/
theorem Effect.jobs_eq {change : MemoryStore → MemoryStore} {s s' : MemoryStore} (h : Effect change s s')
    (hchange : (change s).jobs = s.jobs) : s'.jobs = s.jobs := by
  cases h with
  | refused => rfl
  | made => exact hchange

/-- A change that leaves the pod groups alone does so, too, made or refused. -/
theorem Effect.podGroups_eq {change : MemoryStore → MemoryStore} {s s' : MemoryStore} (h : Effect change s s')
    (hchange : (change s).podGroups = s.podGroups) : s'.podGroups = s.podGroups := by
  cases h with
  | refused => rfl
  | made => exact hchange

/-- Pods and services are as they were, and no failure was lined up. -/
structure SameObjects (s s' : MemoryStore) : Prop where
  pods : s'.pods = s.pods
  services : s'.services = s.services
  failures : s'.failures.Sublist s.failures

/-- And one that leaves pods and services alone does. -/
theorem Effect.sameObjects {change : MemoryStore → MemoryStore} {s s' : MemoryStore} (h : Effect change s s')
    (hpods : (change s).pods = s.pods) (hservices : (change s).services = s.services)
    (hfailures : (change s).failures = s.failures) : SameObjects s s' := by
  cases h with
  | refused failures hsub => exact ⟨rfl, rfl, hsub⟩
  | made => exact ⟨hpods, hservices, hfailures ▸ List.Sublist.refl _⟩

section Collections

variable [HasMetadata α] {objects : MemoryStore → Dict Address α}
  {withObjects : MemoryStore → Dict Address α → MemoryStore}

/-- The object as it is stored by its creation in a namespace. -/
def asPlaced (s : MemoryStore) (ns : String) (object : α) : α :=
  (s.stamp (HasMetadata.withMetadata object { HasMetadata.metadata object with ns := some ns })).1

/-- The store with an object created in one of its collections. -/
def created (objects : MemoryStore → Dict Address α)
    (withObjects : MemoryStore → Dict Address α → MemoryStore) (ns : String) (object : α)
    (s : MemoryStore) : MemoryStore :=
  let next := { s with version := s.version + 1 }
  withObjects next ((objects next).insert ⟨ns, nameOf object⟩ (s.asPlaced ns object))

/-- The store without the object at an address of one of its collections. -/
def removed (objects : MemoryStore → Dict Address α)
    (withObjects : MemoryStore → Dict Address α → MemoryStore) (a : Address) (s : MemoryStore) : MemoryStore :=
  withObjects s ((objects s).erase a)

/-- An object is created unless its name is taken. -/
theorem run_create (collection ns : String) (object : α) (s : MemoryStore) :
    (create collection objects withObjects ns object).run s =
      if (objects s).contains ⟨ns, nameOf object⟩ then
        (.error (.api (.alreadyExists collection (nameOf object))), s)
      else (.ok (s.asPlaced ns object), created objects withObjects ns object s) := by
  change (if (objects s).contains ⟨ns, nameOf object⟩ then _ else _ : StoreM MemoryStore α) s = _
  split <;> rfl

omit [HasMetadata α] in
/-- An object is deleted if it is there. -/
theorem run_delete (kind : String) (a : Address) (s : MemoryStore) :
    (delete kind objects withObjects a).run s =
      if (objects s).contains a then (.ok (), removed objects withObjects a s)
      else (.error (.notFound kind a.name a.ns), s) := by
  change (if (objects s).contains a then _ else _ : StoreM MemoryStore Unit) s = _
  split <;> rfl

/-- The error for something that is to be there already. -/
def missing? (there : Bool) (kind : String) (a : Address) : Option OperatorError :=
  if there then none else some (.notFound kind a.name a.ns)

/-- The error for something that is not to be there yet. -/
def taken? (there : Bool) (collection name : String) : Option OperatorError :=
  if there then some (.api (.alreadyExists collection name)) else none

/-- There is no objection to the deletion of what is there. -/
theorem missing?_eq_none {there : Bool} {kind : String} {a : Address} :
    missing? there kind a = none ↔ there = true := by
  cases there <;> simp [missing?]

/-- The objection is that the object was not found. -/
theorem isNotFound_of_missing? {there : Bool} {kind : String} {a : Address} {e : OperatorError}
    (h : missing? there kind a = some e) : e.isNotFound = true := by
  cases there
  · exact Option.some.inj h ▸ rfl
  · exact absurd h (by simp [missing?])

/-- The objection to a creation is that something else got there first. -/
theorem isConflict_of_taken? {there : Bool} {collection name : String} {e : OperatorError}
    (h : taken? there collection name = some e) : e.isConflict = true := by
  cases there
  · exact absurd h (by simp [taken?])
  · exact Option.some.inj h ▸ rfl

/-- How a creation is answered: refused if a failure waits for it, objected to if the name is taken, and made
otherwise. -/
theorem reply_create (objects : MemoryStore → Dict Address α)
    (withObjects : MemoryStore → Dict Address α → MemoryStore) (op : StoreOp) (collection ns : String) (object : α)
    (s : MemoryStore) :
    Reply (some op) (taken? ((objects s).contains ⟨ns, nameOf object⟩) collection (nameOf object))
      (created objects withObjects ns object s) s
      ((guarded op (create collection objects withObjects ns object)).run s) := by
  refine reply_guarded ?_
  rw [run_create]
  split
  · next hthere => exact .objected (if_pos hthere)
  · next hfree => exact .agreed _ (if_neg hfree)

omit [HasMetadata α] in
/-- How a deletion is answered: refused if a failure waits for it, objected to if the object is gone, and made
otherwise. -/
theorem reply_delete (objects : MemoryStore → Dict Address α)
    (withObjects : MemoryStore → Dict Address α → MemoryStore) (op : StoreOp) (kind : String) (a : Address)
    (s : MemoryStore) :
    Reply (some op) (missing? ((objects s).contains a) kind a) (removed objects withObjects a s) s
      ((guarded op (delete kind objects withObjects a)).run s) := by
  refine reply_guarded ?_
  rw [run_delete]
  split
  · next hthere => exact .agreed () (if_pos hthere)
  · next hgone => exact .objected (if_neg hgone)

theorem effect_create (op : StoreOp) (collection ns : String) (object : α) (s : MemoryStore) :
    Effect (created objects withObjects ns object) s
      ((guarded op (create collection objects withObjects ns object)).run s).2 :=
  (reply_create objects withObjects op collection ns object s).effect

omit [HasMetadata α] in
theorem effect_delete (op : StoreOp) (kind : String) (a : Address) (s : MemoryStore) :
    Effect (removed objects withObjects a) s
      ((guarded op (delete kind objects withObjects a)).run s).2 :=
  (reply_delete objects withObjects op kind a s).effect

end Collections

/-! ## The requests for pods, services and pod groups -/

def withoutPod : Address → MemoryStore → MemoryStore := removed pods fun s d => { s with pods := d }

def withoutService : Address → MemoryStore → MemoryStore := removed services fun s d => { s with services := d }

def withoutPodGroup : Address → MemoryStore → MemoryStore :=
  removed podGroups fun s d => { s with podGroups := d }

def withPod (ns : String) (pod : Pod) : MemoryStore → MemoryStore :=
  created pods (fun s d => { s with pods := d }) ns (asCreated pod)

def withService (ns : String) (service : Service) : MemoryStore → MemoryStore :=
  created services (fun s d => { s with services := d }) ns service

def withPodGroup (ns : String) (group : PodGroup) : MemoryStore → MemoryStore :=
  created podGroups (fun s d => { s with podGroups := d }) ns group

theorem effect_deletePod (a : Address) (s : MemoryStore) :
    Effect (withoutPod a) s ((ObjectStore.deletePod a : StoreM MemoryStore Unit).run s).2 :=
  effect_delete _ _ a s

theorem effect_deleteService (a : Address) (s : MemoryStore) :
    Effect (withoutService a) s ((ObjectStore.deleteService a : StoreM MemoryStore Unit).run s).2 :=
  effect_delete _ _ a s

theorem effect_deletePodGroup (a : Address) (s : MemoryStore) :
    Effect (withoutPodGroup a) s ((ObjectStore.deletePodGroup a : StoreM MemoryStore Unit).run s).2 :=
  effect_delete _ _ a s

theorem effect_createPod (ns : String) (pod : Pod) (s : MemoryStore) :
    Effect (withPod ns pod) s ((ObjectStore.createPod ns pod : StoreM MemoryStore Pod).run s).2 :=
  effect_create _ _ ns _ s

theorem effect_createService (ns : String) (service : Service) (s : MemoryStore) :
    Effect (withService ns service) s
      ((ObjectStore.createService ns service : StoreM MemoryStore Service).run s).2 :=
  effect_create _ _ ns _ s

theorem effect_createPodGroup (ns : String) (group : PodGroup) (s : MemoryStore) :
    Effect (withPodGroup ns group) s
      ((ObjectStore.createPodGroup ns group : StoreM MemoryStore PodGroup).run s).2 :=
  effect_create _ _ ns _ s

theorem run_getPodGroup (a : Address) (s : MemoryStore) :
    (ObjectStore.getPodGroup a : StoreM MemoryStore (Option PodGroup)).run s =
      (.ok (s.podGroups.get? a), s) := rfl

/-- Listing pods changes nothing, and cannot be made to fail. -/
theorem run_listPods (ns : String) (selector : Labels) (s : MemoryStore) :
    (ObjectStore.listPods ns selector : StoreM MemoryStore (List Pod)).run s =
      (.ok (select s.pods ns selector), s) := rfl

theorem run_listServices (ns : String) (selector : Labels) (s : MemoryStore) :
    (ObjectStore.listServices ns selector : StoreM MemoryStore (List Service)).run s =
      (.ok (select s.services ns selector), s) := rfl

/-! ## The requests for jobs -/

/-- The job that a read finds is the one that is stored. -/
theorem run_getJob (a : Address) (s : MemoryStore) :
    (ObjectStore.getJob a : StoreM MemoryStore (Option Job)).run s =
      match takeFailure? .getJob s.failures with
      | some (error, rest) => (.error error, { s with failures := rest })
      | none => (.ok (s.jobs.get? a), s) :=
  run_guarded _ _ s

def withoutJob : Address → MemoryStore → MemoryStore := removed jobs fun s d => { s with jobs := d }

/-- A job is deleted with everything that it owns. -/
theorem run_deleteJob (a : Address) (s : MemoryStore) :
    (ObjectStore.deleteJob a : StoreM MemoryStore Unit).run s =
      match takeFailure? .deleteJob s.failures with
      | some (error, rest) => (.error error, { s with failures := rest })
      | none =>
        if s.jobs.contains a then (.ok (), withoutJob a s) else (.error (.notFound Job.kind a.name a.ns), s) := by
  refine (run_guarded _ _ s).trans ?_
  rw [run_delete]
  rfl

theorem effect_deleteJob (a : Address) (s : MemoryStore) :
    Effect (withoutJob a) s ((ObjectStore.deleteJob a : StoreM MemoryStore Unit).run s).2 :=
  effect_delete _ _ a s

/-- The stored job with a status written to it. -/
def withRecord (s : MemoryStore) (job : Job) (status : JobStatus) : Job :=
  { job with metadata := stamped (s.version + 1) s.clock job.metadata, status := some status }

/-- The store with a status written to a job. -/
def recorded (a : Address) (status : JobStatus) (s : MemoryStore) : MemoryStore :=
  match s.jobs.get? a with
  | none => s
  | some job => { s with
      jobs := s.jobs.insert a (s.withRecord job status)
      statusUpdates := s.statusUpdates + 1
      version := s.version + 1 }

theorem pods_recorded (a : Address) (status : JobStatus) (s : MemoryStore) :
    (recorded a status s).pods = s.pods := by
  unfold recorded
  split <;> rfl

theorem services_recorded (a : Address) (status : JobStatus) (s : MemoryStore) :
    (recorded a status s).services = s.services := by
  unfold recorded
  split <;> rfl

theorem podGroups_recorded (a : Address) (status : JobStatus) (s : MemoryStore) :
    (recorded a status s).podGroups = s.podGroups := by
  unfold recorded
  split <;> rfl

theorem failures_recorded (a : Address) (status : JobStatus) (s : MemoryStore) :
    (recorded a status s).failures = s.failures := by
  unfold recorded
  split <;> rfl

/-- A status is written to the job that is stored, and to none if there is none. -/
theorem run_writeStatus (job : Job) (status : JobStatus) (s : MemoryStore) :
    (writeStatus job status).run s =
      match s.jobs.get? job.address with
      | none => (.error (.notFound Job.kind job.name job.ns), s)
      | some _ => (.ok (), recorded job.address status s) := by
  unfold recorded
  change (match s.jobs.get? job.address with | none => _ | some stored => _ : StoreM MemoryStore Unit) s = _
  cases s.jobs.get? job.address <;> rfl

/-- The same, unless a failure waits for the operation. -/
theorem run_updateJobStatus (job : Job) (status : JobStatus) (s : MemoryStore) :
    (ObjectStore.updateJobStatus job status : StoreM MemoryStore Unit).run s =
      match takeFailure? .updateJobStatus s.failures with
      | some (error, rest) => (.error error, { s with failures := rest })
      | none =>
        match s.jobs.get? job.address with
        | none => (.error (.notFound Job.kind job.name job.ns), s)
        | some _ => (.ok (), recorded job.address status s) := by
  rw [← run_writeStatus]
  exact run_guarded _ _ s

/-- How the write of a status is answered. -/
theorem reply_updateJobStatus (job : Job) (status : JobStatus) (s : MemoryStore) :
    Reply (some .updateJobStatus) (missing? (s.jobs.contains job.address) Job.kind job.address)
      (recorded job.address status s) s
      ((ObjectStore.updateJobStatus job status : StoreM MemoryStore Unit).run s) := by
  refine reply_guarded ?_
  rw [run_writeStatus]
  rcases hstored : s.jobs.get? job.address with _ | stored
  · refine .objected ?_
    rw [missing?, Dict.contains, hstored]
    rfl
  · refine .agreed () ?_
    rw [missing?, Dict.contains, hstored]
    rfl

theorem effect_updateJobStatus (job : Job) (status : JobStatus) (s : MemoryStore) :
    Effect (recorded job.address status) s
      ((ObjectStore.updateJobStatus job status : StoreM MemoryStore Unit).run s).2 :=
  (reply_updateJobStatus job status s).effect

end MemoryStore

end TrainingJobs
