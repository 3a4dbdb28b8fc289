/-
What can be relied on in a store that is kept in memory.

Every write of an object takes the next number of one counter and notes it on the object, and everything else
that can be done to a store leaves the numbers alone (`MemoryStore.Follows`). So whatever was done to a store
that was empty at first, in it everything stands at its own address, has an identity, and carries a number that
nothing else carries and that the counter has reached (`MemoryStore.Consistent`). Requests are all or nothing:
one that is not answered either takes the failure that was waiting for it out of the line, or is turned down
for a reason that lies in what is stored, and neither changes anything else (`MemoryStore.Reply`).
-/
import TrainingJobs.Proofs.Housing
import TrainingJobs.Proofs.Reachability

set_option autoImplicit false

namespace TrainingJobs

/-- The number that the last write of an object has noted on it. -/
def Metadata.Numbered (m : Metadata) (n : Nat) : Prop := m.resourceVersion = some (toString n)

/-- A number is noted as a numeral, and a numeral is that of one number only. -/
theorem Metadata.Numbered.unique {m m' : Metadata} {n n' : Nat} (h : m.Numbered n) (h' : m'.Numbered n')
    (heq : m.resourceVersion = m'.resourceVersion) : n = n' := by
  unfold Numbered at h h'
  rw [h, h', Option.some.injEq] at heq
  have hread := Text.readNat?_toString n
  rw [heq, Text.readNat?_toString, Option.some.injEq] at hread
  exact hread.symm

namespace MemoryStore

/-! ## Where objects stand -/

/-- The collections of a store. -/
inductive Collection where
  | jobs
  | pods
  | services
  | podGroups
  deriving DecidableEq

/-- Where an object can stand: at an address of one of the collections. -/
structure Spot where
  collection : Collection
  address : Address
  deriving DecidableEq

/-- What the object at a spot says about itself. -/
def at? (s : MemoryStore) : Spot → Option Metadata
  | ⟨.jobs, a⟩ => (s.jobs.get? a).map Job.metadata
  | ⟨.pods, a⟩ => (s.pods.get? a).map Pod.metadata
  | ⟨.services, a⟩ => (s.services.get? a).map Service.metadata
  | ⟨.podGroups, a⟩ => (s.podGroups.get? a).map PodGroup.metadata

/-- What has the same collections has the same objects everywhere. -/
theorem at?_congr {s s' : MemoryStore} (hjobs : s'.jobs = s.jobs) (hpods : s'.pods = s.pods)
    (hservices : s'.services = s.services) (hgroups : s'.podGroups = s.podGroups) (x : Spot) :
    s'.at? x = s.at? x := by
  obtain ⟨collection, a⟩ := x
  cases collection <;> simp only [at?, hjobs, hpods, hservices, hgroups]

/-- Every object stands at its own address, has an identity, and carries the number of a write that no other
object carries. -/
structure Consistent (s : MemoryStore) : Prop where
  placed : ∀ x m, s.at? x = some m → m.address = x.address
  identified : ∀ x m, s.at? x = some m → m.uid.isSome = true
  numbered : ∀ x m, s.at? x = some m → ∃ n, m.Numbered n ∧ n ≤ s.version
  distinct : ∀ x y m m', s.at? x = some m → s.at? y = some m' → m.resourceVersion = m'.resourceVersion → x = y

/-! ## One write, and none -/

/-- Nothing is written: the counter stays, and what is there was there before. -/
structure WritesNone (s s' : MemoryStore) : Prop where
  version : s'.version = s.version
  found : ∀ y m, s'.at? y = some m → s.at? y = some m

/-- One object is written, with the next number, and the others stay as they are. -/
structure Writes (s s' : MemoryStore) (x : Spot) : Prop where
  version : s'.version = s.version + 1
  written : ∃ m, s'.at? x = some m ∧ m.address = x.address ∧ m.uid.isSome = true ∧ m.Numbered (s.version + 1)
  others : ∀ y, y ≠ x → s'.at? y = s.at? y

/-- The second store is the first one with the object at one spot written, or with none written. -/
def Follows (s s' : MemoryStore) : Option Spot → Prop
  | none => WritesNone s s'
  | some x => Writes s s' x

section Invariant

variable {s s' : MemoryStore} {x : Spot}

/-- Where nothing is written the numbers stay consistent, whatever is deleted. -/
theorem Consistent.of_writesNone (h : s.Consistent) (hs : WritesNone s s') : s'.Consistent where
  placed y m hm := h.placed y m (hs.found y m hm)
  identified y m hm := h.identified y m (hs.found y m hm)
  numbered y m hm := by
    rw [hs.version]
    exact h.numbered y m (hs.found y m hm)
  distinct y z m m' hm hm' := h.distinct y z m m' (hs.found y m hm) (hs.found z m' hm')

/-- What is found after a write was just written, or was there before and carries a lower number. -/
theorem Consistent.cases_of_writes (h : s.Consistent) (hs : Writes s s' x) {y : Spot} {m : Metadata}
    (hm : s'.at? y = some m) :
    (y = x ∧ m.address = x.address ∧ m.uid.isSome = true ∧ m.Numbered (s.version + 1)) ∨
      (y ≠ x ∧ s.at? y = some m ∧ ∃ n, m.Numbered n ∧ n ≤ s.version) := by
  by_cases hy : y = x
  · obtain ⟨written, hwritten, hfresh⟩ := hs.written
    rw [hy, hwritten, Option.some.injEq] at hm
    exact .inl ⟨hy, hm ▸ hfresh⟩
  · rw [hs.others y hy] at hm
    exact .inr ⟨hy, hm, h.numbered y m hm⟩

/-- A write gives the object the next number, above all others. -/
theorem Consistent.of_writes (h : s.Consistent) (hs : Writes s s' x) : s'.Consistent where
  placed y m hm := by
    rcases h.cases_of_writes hs hm with ⟨rfl, haddress, -⟩ | ⟨-, hold, -⟩
    · exact haddress
    · exact h.placed y m hold
  identified y m hm := by
    rcases h.cases_of_writes hs hm with ⟨-, -, huid, -⟩ | ⟨-, hold, -⟩
    · exact huid
    · exact h.identified y m hold
  numbered y m hm := by
    rw [hs.version]
    rcases h.cases_of_writes hs hm with ⟨-, -, -, hnumber⟩ | ⟨-, -, n, hn, hle⟩
    · exact ⟨s.version + 1, hnumber, Nat.le_refl _⟩
    · exact ⟨n, hn, Nat.le_succ_of_le hle⟩
  distinct y z m m' hm hm' heq := by
    -- The new number is above all others, so it is noted at one spot alone.
    rcases h.cases_of_writes hs hm with ⟨rfl, -, -, hnew⟩ | ⟨-, hold, n, hn, hle⟩
    · rcases h.cases_of_writes hs hm' with ⟨rfl, -⟩ | ⟨-, -, n', hn', hle'⟩
      · rfl
      · have := hnew.unique hn' heq
        omega
    · rcases h.cases_of_writes hs hm' with ⟨-, -, -, hnew'⟩ | ⟨-, hold', -⟩
      · have := hn.unique hnew' heq
        omega
      · exact h.distinct y z m m' hold hold' heq

/-- So they stay consistent along either kind of step. -/
theorem Consistent.follows (h : s.Consistent) {x? : Option Spot} (hs : Follows s s' x?) : s'.Consistent := by
  cases x? with
  | none => exact h.of_writesNone hs
  | some x => exact h.of_writes hs

/-- The number of a write is larger than every number that was noted before. -/
theorem Consistent.exceeds (h : s.Consistent) (hs : Writes s s' x) :
    ∃ m n, s'.at? x = some m ∧ m.Numbered n ∧ ∀ y old, s.at? y = some old → ∃ k < n, old.Numbered k := by
  obtain ⟨m, hm, -, -, hnumber⟩ := hs.written
  refine ⟨m, s.version + 1, hm, hnumber, fun y old hold => ?_⟩
  obtain ⟨k, hk, hle⟩ := h.numbered y old hold
  exact ⟨k, Nat.lt_succ_of_le hle, hk⟩

/-- A step counts one write or none. -/
theorem Follows.version_eq {x? : Option Spot} (hs : Follows s s' x?) :
    s'.version = s.version + if x?.isSome then 1 else 0 := by
  cases x? with
  | none => exact WritesNone.version hs
  | some x => exact Writes.version hs

/-- What is found where nothing was written was there before. -/
theorem Follows.found {x? : Option Spot} (hs : Follows s s' x?) {y : Spot} {m : Metadata} (hy : x? ≠ some y)
    (hm : s'.at? y = some m) : s.at? y = some m := by
  cases x? with
  | none => exact WritesNone.found hs y m hm
  | some x =>
    have hne : y ≠ x := fun hyx => hy (congrArg some hyx.symm)
    rw [← hm]
    exact (Writes.others hs y hne).symm

/-- Where all collections and the count are the same, nothing was written. -/
theorem WritesNone.of_collections (hjobs : s'.jobs = s.jobs) (hpods : s'.pods = s.pods)
    (hservices : s'.services = s.services) (hgroups : s'.podGroups = s.podGroups)
    (hversion : s'.version = s.version) : WritesNone s s' where
  version := hversion
  found y m hm := by rwa [at?_congr hjobs hpods hservices hgroups] at hm

end Invariant

/-! ## The collections, handled alike -/

section Collections

variable {α : Type} [HasMetadata α] {objects : MemoryStore → Dict Address α}
  {withObjects : MemoryStore → Dict Address α → MemoryStore} {k : Collection}

/-- The two functions read a collection and replace it, and leave the rest of a store alone. -/
structure Handles (k : Collection) (objects : MemoryStore → Dict Address α)
    (withObjects : MemoryStore → Dict Address α → MemoryStore) : Prop where
  read : ∀ s a, s.at? ⟨k, a⟩ = ((objects s).get? a).map HasMetadata.metadata
  replaced : ∀ s d, objects (withObjects s d) = d
  others : ∀ s d y, y.collection ≠ k → (withObjects s d).at? y = s.at? y
  version : ∀ s d, (withObjects s d).version = s.version

/-- The four collections of the store are handled apart from each other, and writes to one are seen in no other. This
is the one of the jobs. -/
theorem handles_jobs : Handles .jobs jobs fun s d => { s with jobs := d } where
  read _ _ := rfl
  replaced _ _ := rfl
  others s d y hy := by
    obtain ⟨collection, a⟩ := y
    cases collection <;> simp_all [at?]
  version _ _ := rfl

theorem handles_pods : Handles .pods pods fun s d => { s with pods := d } where
  read _ _ := rfl
  replaced _ _ := rfl
  others s d y hy := by
    obtain ⟨collection, a⟩ := y
    cases collection <;> simp_all [at?]
  version _ _ := rfl

theorem handles_services : Handles .services services fun s d => { s with services := d } where
  read _ _ := rfl
  replaced _ _ := rfl
  others s d y hy := by
    obtain ⟨collection, a⟩ := y
    cases collection <;> simp_all [at?]
  version _ _ := rfl

theorem handles_podGroups : Handles .podGroups podGroups fun s d => { s with podGroups := d } where
  read _ _ := rfl
  replaced _ _ := rfl
  others s d y hy := by
    obtain ⟨collection, a⟩ := y
    cases collection <;> simp_all [at?]
  version _ _ := rfl

/-- Taking an object out writes none. -/
theorem Handles.writesNone_removed (h : Handles k objects withObjects) (a : Address) (s : MemoryStore) :
    WritesNone s (removed objects withObjects a s) where
  version := h.version s _
  found y m hm := by
    obtain ⟨collection, b⟩ := y
    unfold removed at hm
    -- What a removal leaves in its collection was there; the other collections are untouched.
    by_cases hk : collection = k
    · subst hk
      rw [h.read, h.replaced] at hm
      obtain ⟨o, ho, rfl⟩ := Option.map_eq_some_iff.1 hm
      rw [h.read, Dict.get?_of_erase ho, Option.map_some]
    · rwa [h.others s _ _ hk] at hm

/-- Putting an object in its place writes it, if it has an identity and the number that is counted for it. -/
theorem Handles.writes (h : Handles k objects withObjects) {s counted : MemoryStore} {a : Address} {o : α}
    (hversion : counted.version = s.version + 1) (hat : ∀ y, counted.at? y = s.at? y) (haddress : addressOf o = a)
    (huid : (HasMetadata.metadata o).uid.isSome = true) (hnumber : (HasMetadata.metadata o).Numbered (s.version + 1)) :
    Writes s (withObjects counted ((objects counted).insert a o)) ⟨k, a⟩ where
  version := (h.version counted _).trans hversion
  written := by
    refine ⟨HasMetadata.metadata o, ?_, haddress, huid, hnumber⟩
    rw [h.read, h.replaced, Dict.get?_insert_self, Option.map_some]
  others y hy := by
    obtain ⟨collection, b⟩ := y
    rw [← hat]
    -- Within the collection only `a` changes, and no other collection does.
    by_cases hk : collection = k
    · subst hk
      have hb : b ≠ a := fun hba => hy (congrArg _ hba)
      rw [h.read, h.replaced, h.read, Dict.get?_insert_ne _ _ hb]
    · exact h.others counted _ _ hk

/-- A stamp notes the next number. -/
theorem numbered_stamped (version : Nat) (clock : Timestamp) (m : Metadata) :
    (stamped version clock m).Numbered version := by
  unfold stamped Metadata.Numbered
  rcases m.uid with _ | uid <;> rfl

/-- Counting a write moves nothing. -/
theorem at?_counted (s : MemoryStore) (version statusUpdates : Nat) (y : Spot) :
    { s with version := version, statusUpdates := statusUpdates }.at? y = s.at? y :=
  at?_congr rfl rfl rfl rfl y

/-- A creation is a write at the address of the object. -/
theorem Handles.writes_created [LawfulMetadata α] (h : Handles k objects withObjects) (ns : String) (o : α)
    (s : MemoryStore) : Writes s (created objects withObjects ns o s) ⟨k, ⟨ns, nameOf o⟩⟩ := by
  have hmetadata : HasMetadata.metadata (s.asPlaced ns o) =
      stamped (s.version + 1) s.clock { HasMetadata.metadata o with ns := some ns } := by
    unfold asPlaced stamp
    rw [LawfulMetadata.metadata_withMetadata, LawfulMetadata.metadata_withMetadata]
  refine h.writes rfl (at?_counted s _ s.statusUpdates) ?_ ?_ ?_
  · unfold addressOf
    rw [hmetadata, address_stamped]
    rfl
  · rw [hmetadata]
    exact isSome_uid_stamped _ _ _
  · rw [hmetadata]
    exact numbered_stamped _ _ _

end Collections

end MemoryStore

/-! ## How requests end -/

namespace StoreCall

open MemoryStore

/-- The operation for which a failure must be waiting to hit the call. -/
def storeOp? : StoreCall → Option StoreOp
  | getJob _ => some .getJob
  | updateJobStatus _ _ => some .updateJobStatus
  | deleteJob _ => some .deleteJob
  | createPod _ _ => some .createPod
  | deletePod _ => some .deletePod
  | createService _ _ => some .createService
  | deleteService _ => some .deleteService
  | createPodGroup _ _ => some .createPodGroup
  | deletePodGroup _ => some .deletePodGroup
  | listPods _ _ | listServices _ _ | getPodGroup _ => none

/-- The error with which a store turns the call down because of what is stored. -/
def objection? (s : MemoryStore) : StoreCall → Option OperatorError
  | updateJobStatus job _ => missing? (s.jobs.contains job.address) Job.kind job.address
  | deleteJob a => missing? (s.jobs.contains a) Job.kind a
  | deletePod a => missing? (s.pods.contains a) "Pod" a
  | deleteService a => missing? (s.services.contains a) "Service" a
  | deletePodGroup a => missing? (s.podGroups.contains a) PodGroup.kind a
  | createPod ns pod => taken? (s.pods.contains ⟨ns, nameOf pod⟩) "pods" (nameOf pod)
  | createService ns service => taken? (s.services.contains ⟨ns, nameOf service⟩) "services" (nameOf service)
  | createPodGroup ns group => taken? (s.podGroups.contains ⟨ns, nameOf group⟩) PodGroup.plural (nameOf group)
  | getJob _ | listPods _ _ | listServices _ _ | getPodGroup _ => none

/-- What a call that is answered makes of a store. -/
def change : StoreCall → MemoryStore → MemoryStore
  | updateJobStatus job status => recorded job.address status
  | deleteJob a => withoutJob a
  | createPod ns pod => withPod ns pod
  | deletePod a => withoutPod a
  | createService ns service => withService ns service
  | deleteService a => withoutService a
  | createPodGroup ns group => withPodGroup ns group
  | deletePodGroup a => withoutPodGroup a
  | getJob _ | listPods _ _ | listServices _ _ | getPodGroup _ => id

/-- Where the call writes an object, if it is to write one. -/
def target? : StoreCall → Option Spot
  | updateJobStatus job _ => some ⟨.jobs, job.address⟩
  | createPod ns pod => some ⟨.pods, ⟨ns, nameOf pod⟩⟩
  | createService ns service => some ⟨.services, ⟨ns, nameOf service⟩⟩
  | createPodGroup ns group => some ⟨.podGroups, ⟨ns, nameOf group⟩⟩
  | _ => none

/-- The call is to write a status. -/
def writesStatus : StoreCall → Bool
  | updateJobStatus _ _ => true
  | _ => false

/-- A store in memory answers the call. -/
def answered (call : StoreCall) (s : MemoryStore) : Bool :=
  ((call.op : StoreM MemoryStore call.Answer).run s).1.isOk

/-- Every call is taken by a failure, turned down for what is stored, or made. -/
theorem reply (call : StoreCall) (s : MemoryStore) :
    Reply call.storeOp? (call.objection? s) (call.change s) s
      ((call.op : StoreM MemoryStore call.Answer).run s) := by
  cases call with
  | getJob a => exact reply_guarded (.agreed _ rfl)
  | updateJobStatus job status => exact reply_updateJobStatus job status s
  | deleteJob a => exact reply_delete jobs (fun s d => { s with jobs := d }) .deleteJob Job.kind a s
  -- A list or a look for a pod group finds what there is, whatever failure is lined up.
  | listPods ns selector => exact .agreed _ rfl
  | listServices ns selector => exact .agreed _ rfl
  | getPodGroup a => exact .agreed _ rfl
  | createPod ns pod => exact reply_create pods (fun s d => { s with pods := d }) .createPod "pods" ns (asCreated pod) s
  | deletePod a => exact reply_delete pods (fun s d => { s with pods := d }) .deletePod "Pod" a s
  | createService ns service =>
    exact reply_create services (fun s d => { s with services := d }) .createService "services" ns service s
  | deleteService a => exact reply_delete services (fun s d => { s with services := d }) .deleteService "Service" a s
  | createPodGroup ns group =>
    exact reply_create podGroups (fun s d => { s with podGroups := d }) .createPodGroup PodGroup.plural ns group s
  | deletePodGroup a =>
    exact reply_delete podGroups (fun s d => { s with podGroups := d }) .deletePodGroup PodGroup.kind a s

/-- A store objects only because something is gone or because something got there first. -/
theorem objection?_kind {call : StoreCall} {s : MemoryStore} {e : OperatorError} (h : call.objection? s = some e) :
    e.isNotFound = true ∨ e.isConflict = true := by
  cases call with
  | updateJobStatus | deleteJob | deletePod | deleteService | deletePodGroup => exact .inl (isNotFound_of_missing? h)
  | createPod | createService | createPodGroup => exact .inr (isConflict_of_taken? h)
  | getJob | listPods | listServices | getPodGroup => exact absurd h (by simp [objection?])

end StoreCall

/-! ## What each access writes -/

namespace Access

open MemoryStore

/-- Where it writes an object, if it writes one: an insertion always does, a change of phase does where there is
a pod, and a request does if it is for a write and is answered. -/
def written? (s : MemoryStore) : Access → Option Spot
  | insertJob job => some ⟨.jobs, job.address⟩
  | insertPod pod => some ⟨.pods, pod.metadata.address⟩
  | setPodPhase a _ => if s.pods.contains a then some ⟨.pods, a⟩ else none
  | request call => if call.answered s then call.target? else none
  | clock _ | failNext _ _ | removeJob _ | removePod _ => none

/-- It is a write of a status that is accepted. -/
def recordsStatus (s : MemoryStore) : Access → Bool
  | request call => call.writesStatus && call.answered s
  | _ => false

/-- How many of the things that are done to a store in turn are such that `p` holds of them at the store they are
done to. -/
def count (p : MemoryStore → Access → Bool) : MemoryStore → List Access → Nat
  | _, [] => 0
  | s, access :: rest => (if p s access then 1 else 0) + count p (access.make s) rest

/-- What grows with every access that `p` holds of has grown by their number. -/
theorem count_of_step (good : MemoryStore → Prop) (measure : MemoryStore → Nat)
    {p : MemoryStore → Access → Bool} (hgood : ∀ s (access : Access), good s → good (access.make s))
    (hstep : ∀ s (access : Access), good s → measure (access.make s) = measure s + if p s access then 1 else 0)
    {s : MemoryStore} (hs : good s) (accesses : List Access) :
    measure (accesses.foldl make s) = measure s + count p s accesses := by
  induction accesses generalizing s with
  | nil => rfl
  | cons access rest ih => rw [List.foldl_cons, ih (hgood s access hs), hstep s access hs, count, Nat.add_assoc]

end Access

namespace MemoryStore

variable {s : MemoryStore}

/-- A job that is put into the store is a write. -/
theorem writes_insertJob (job : Job) (s : MemoryStore) : Writes s (s.insertJob job) ⟨.jobs, job.address⟩ := by
  have haddress : (s.stamp job).1.address = job.address := address_stamped (s.version + 1) s.clock job.metadata
  rw [← haddress]
  exact handles_jobs.writes rfl (at?_counted s _ s.statusUpdates) rfl (isSome_uid_stamped _ _ _)
    (numbered_stamped _ _ _)

/-- And so is a pod. -/
theorem writes_insertPod (pod : Pod) (s : MemoryStore) :
    Writes s (s.insertPod pod) ⟨.pods, pod.metadata.address⟩ := by
  have haddress : (s.stamp pod).1.metadata.address = pod.metadata.address :=
    address_stamped (s.version + 1) s.clock pod.metadata
  rw [← haddress]
  exact handles_pods.writes rfl (at?_counted s _ s.statusUpdates) rfl (isSome_uid_stamped _ _ _)
    (numbered_stamped _ _ _)

/-- A change of phase only notes a number, so the pod must have had its address and its identity before. -/
theorem Consistent.follows_setPodPhase (h : s.Consistent) (a : Address) (phase : String) :
    Follows s (s.setPodPhase a phase) (if s.pods.contains a then some ⟨.pods, a⟩ else none) := by
  unfold setPodPhase Dict.contains
  rcases hpod : s.pods.get? a with _ | pod
  · exact WritesNone.of_collections rfl rfl rfl rfl rfl
  · have hat : s.at? ⟨.pods, a⟩ = some pod.metadata := congrArg (Option.map Pod.metadata) hpod
    have haddress : pod.metadata.address = a := h.placed _ _ hat
    have huid : pod.metadata.uid.isSome = true := h.identified _ _ hat
    refine handles_pods.writes rfl (at?_counted s _ s.statusUpdates) ?_ ?_ ?_
    · exact haddress
    · exact huid
    · rfl

/-- The status of a stored job is a write of that job. -/
theorem Consistent.writes_recorded (h : s.Consistent) {a : Address} (status : JobStatus)
    (hstored : s.jobs.contains a = true) : Writes s (recorded a status s) ⟨.jobs, a⟩ := by
  obtain ⟨job, hjob⟩ := Option.isSome_iff_exists.1 hstored
  have hat : s.at? ⟨.jobs, a⟩ = some job.metadata := congrArg (Option.map Job.metadata) hjob
  have haddress : (s.withRecord job status).address = a :=
    (address_stamped (s.version + 1) s.clock job.metadata).trans (h.placed _ _ hat)
  unfold recorded
  rw [hjob]
  exact handles_jobs.writes rfl (at?_counted s _ (s.statusUpdates + 1)) haddress (isSome_uid_stamped _ _ _)
    (numbered_stamped _ _ _)

/-- What a call makes of a store that does not object to it. -/
theorem Consistent.follows_change (h : s.Consistent) {call : StoreCall} (hagreed : call.objection? s = none) :
    Follows s (call.change s) call.target? := by
  -- By call: reads write nothing, removals write nothing, the rest write at their target.
  cases call with
  | getJob | listPods | listServices | getPodGroup => exact WritesNone.of_collections rfl rfl rfl rfl rfl
  | updateJobStatus job status => exact h.writes_recorded status (missing?_eq_none.1 hagreed)
  | deleteJob a => exact handles_jobs.writesNone_removed a s
  | deletePod a => exact handles_pods.writesNone_removed a s
  | deleteService a => exact handles_services.writesNone_removed a s
  | deletePodGroup a => exact handles_podGroups.writesNone_removed a s
  | createPod ns pod => exact handles_pods.writes_created ns (asCreated pod) s
  | createService ns service => exact handles_services.writes_created ns service s
  | createPodGroup ns group => exact handles_podGroups.writes_created ns group s

/-- A call that is not answered writes nothing, and one that is answered writes what it is for. -/
theorem Consistent.follows_reply (h : s.Consistent) {α : Type} {call : StoreCall}
    {result : Except OperatorError α × MemoryStore}
    (hresult : Reply call.storeOp? (call.objection? s) (call.change s) s result) :
    Follows s result.2 (if result.1.isOk then call.target? else none) := by
  cases hresult with
  | injected => exact WritesNone.of_collections rfl rfl rfl rfl rfl
  | objected => exact WritesNone.of_collections rfl rfl rfl rfl rfl
  | agreed _ hagreed => exact h.follows_change hagreed

/-- **Whatever is done to a store writes one object or none**, and it is known which. -/
theorem Consistent.follows_make (h : s.Consistent) (access : Access) :
    Follows s (access.make s) (access.written? s) := by
  cases access with
  | clock | failNext => exact WritesNone.of_collections rfl rfl rfl rfl rfl
  | insertJob job => exact writes_insertJob job s
  | insertPod pod => exact writes_insertPod pod s
  | removeJob a => exact handles_jobs.writesNone_removed a s
  | removePod a => exact handles_pods.writesNone_removed a s
  | setPodPhase a phase => exact h.follows_setPodPhase a phase
  | request call => exact h.follows_reply (call.reply s)

theorem at?_empty (clock : Timestamp) (x : Spot) : ({ clock := clock } : MemoryStore).at? x = none := by
  obtain ⟨collection, a⟩ := x
  cases collection <;> simp [at?, EmptyCollection.emptyCollection]

/-- An empty store is consistent. -/
theorem consistent_empty (clock : Timestamp) : Consistent { clock := clock } := by
  constructor <;> intro x <;> simp [at?_empty]

/-- Everything that can be done to a store leaves it consistent. -/
theorem Consistent.make (h : s.Consistent) (access : Access) : (access.make s).Consistent :=
  h.follows (h.follows_make access)

/-- So by induction it is, whatever is done to it in turn. -/
theorem Consistent.run (h : s.Consistent) (accesses : List Access) : (accesses.foldl Access.make s).Consistent := by
  induction accesses generalizing s with
  | nil => exact h
  | cons access rest ih => exact ih (h.make access)

/-- The counter has counted the writes. -/
theorem Consistent.version_run (h : s.Consistent) (accesses : List Access) :
    (accesses.foldl Access.make s).version =
      s.version + Access.count (fun s access => (access.written? s).isSome) s accesses :=
  Access.count_of_step Consistent version (fun _ access hs => hs.make access)
    (fun _ access hs => (hs.follows_make access).version_eq) h accesses

/-- A call that is agreed to counts as a status update if it is one. -/
theorem statusUpdates_change {call : StoreCall} (hagreed : call.objection? s = none) :
    (call.change s).statusUpdates = s.statusUpdates + if call.writesStatus then 1 else 0 := by
  cases call with
  | updateJobStatus job status =>
    obtain ⟨stored, hstored⟩ := Option.isSome_iff_exists.1 (missing?_eq_none.1 hagreed)
    change (recorded job.address status s).statusUpdates = s.statusUpdates + 1
    unfold recorded
    rw [hstored]
  | _ => rfl

/-- A status update is counted just when the answer to it is no error. -/
theorem statusUpdates_reply {α : Type} {call : StoreCall} {result : Except OperatorError α × MemoryStore}
    (hresult : Reply call.storeOp? (call.objection? s) (call.change s) s result) :
    result.2.statusUpdates = s.statusUpdates + if call.writesStatus && result.1.isOk then 1 else 0 := by
  cases hresult with
  | injected => simp [Except.isOk, Except.toBool]
  | objected => simp [Except.isOk, Except.toBool]
  | agreed _ hagreed => simp [Except.isOk, Except.toBool, statusUpdates_change hagreed]

/-- Of all that can be done to a store, just the status updates that went through are counted. -/
theorem statusUpdates_make (s : MemoryStore) (access : Access) :
    (access.make s).statusUpdates = s.statusUpdates + if access.recordsStatus s then 1 else 0 := by
  cases access with
  | setPodPhase a phase =>
    change (s.setPodPhase a phase).statusUpdates = s.statusUpdates
    unfold setPodPhase
    split <;> rfl
  | request call => exact statusUpdates_reply (call.reply s)
  | _ => rfl

/-- The store has counted the writes of a status that it accepted. -/
theorem statusUpdates_run (s : MemoryStore) (accesses : List Access) :
    (accesses.foldl Access.make s).statusUpdates =
      s.statusUpdates + Access.count (fun s access => access.recordsStatus s) s accesses :=
  Access.count_of_step (fun _ => True) statusUpdates (fun _ _ _ => trivial)
    (fun s access _ => statusUpdates_make s access) trivial accesses

end MemoryStore

/-- **Everything in a store is in its place and numbered, and every request is all or nothing.** Whatever was done
to a store that was empty at first:
* every object stands at its own address, with an identity and a number of its own that the counter has reached;
* the counter has counted the writes, and `statusUpdates` the writes of a status that were accepted;
* the next thing that is done writes the object that is to be written with a number above all others, and whatever
  else is found afterwards is as it was;
* a request that ends in an error, if only because something is gone or got there first, leaves everything but the
  line of failures as it is, and takes at most the failure out of it that it ends with, one that waited for it. -/
theorem store_consistent_and_atomic (clock : Timestamp) (accesses : List Access) :
    let start : MemoryStore := { clock := clock }
    let s := accesses.foldl Access.make start
    s.Consistent ∧
      s.version = Access.count (fun s access => (access.written? s).isSome) start accesses ∧
      s.statusUpdates = Access.count (fun s access => access.recordsStatus s) start accesses ∧
      (∀ (access : Access) x, access.written? s = some x →
        ∃ m n, (access.make s).at? x = some m ∧ m.Numbered n ∧ ∀ y old, s.at? y = some old → ∃ k < n, old.Numbered k) ∧
      (∀ (access : Access) y m, access.written? s ≠ some y → (access.make s).at? y = some m → s.at? y = some m) ∧
      ∀ (call : StoreCall) e s', (call.op : StoreM MemoryStore call.Answer).run s = (.error e, s') →
        s' = { s with failures := s'.failures } ∧
          ((s'.failures = s.failures ∧ call.objection? s = some e ∧ (e.isNotFound = true ∨ e.isConflict = true)) ∨
            ∃ op before after, call.storeOp? = some op ∧ (∀ f ∈ before, f.1 ≠ op) ∧
              s.failures = before ++ (op, e) :: after ∧ s'.failures = before ++ after) := by
  intro start s
  have hstart : start.Consistent := MemoryStore.consistent_empty clock
  have hs : s.Consistent := hstart.run accesses
  refine ⟨hs, ?_, ?_, fun access x hx => ?_, fun access y m hy hm => ?_, fun call e s' hrun => ?_⟩
  · rw [hstart.version_run accesses, Nat.zero_add]
  · rw [MemoryStore.statusUpdates_run start accesses, Nat.zero_add]
  · have hwrites := hs.follows_make access
    rw [hx] at hwrites
    exact hs.exceeds hwrites
  · exact (hs.follows_make access).found hy hm
  · -- A call either answers or gives back the store: `reply` says which, and why.
    have hreply := call.reply s
    rw [hrun] at hreply
    obtain ⟨hrest, hcause⟩ := hreply.of_error
    refine ⟨hrest, hcause.imp_left fun hobjected => ?_⟩
    exact ⟨hobjected.1, hobjected.2, StoreCall.objection?_kind hobjected.2⟩

/-- A pod of the sample job that is not in the store yet. -/
def lateWorker : Pod := samplePod workerType 0 "Running" none

/-- What is done to a store that gets the sample job: a service is asked for twice, two requests are made to fail, a
status is written, and the one pod that there is comes to its end. -/
def furnishing : List Access :=
  let job := sampleJob {} [(masterType, sampleType 1 .never), (workerType, sampleType 1 .never)] none
  let service := StoreCall.createService "default" (sampleService masterType 0)
  [.insertJob job, .insertPod (samplePod masterType 0 "Running" none), .request service, .request service,
    .failNext .deletePod .exchange, .failNext .createPod (.timeout "slow"), .request (.updateJobStatus job {}),
    .setPodPhase ⟨"default", slotName "iris" masterType 0⟩ "Succeeded"]

/-- Of what was done to that store five things were writes, one of them a write of a status. The next pod gets a
number above theirs if it is put there, and if it is asked for, the one failure that waits for that is used up. -/
theorem store_consistent_and_atomic_furnished :
    let s := furnishing.foldl Access.make { clock := ⟨0⟩ }
    let call := StoreCall.createPod "default" lateWorker
    s.Consistent ∧ s.version = 5 ∧ s.statusUpdates = 1 ∧
      (∃ m n, (Access.make s (.insertPod lateWorker)).at? ⟨.pods, lateWorker.metadata.address⟩ = some m ∧
        m.Numbered n ∧ ∀ y old, s.at? y = some old → ∃ k < n, old.Numbered k) ∧
      (∀ m, (Access.make s (.insertPod lateWorker)).at? ⟨.jobs, sampleAddress⟩ = some m →
        s.at? ⟨.jobs, sampleAddress⟩ = some m) ∧
      ∃ e, (call.op : StoreM MemoryStore call.Answer).run s =
        (.error e, { s with failures := [(.deletePod, .exchange)] }) := by
  intro s call
  obtain ⟨hconsistent, hversion, hupdates, hnext, hothers, hrefused⟩ := store_consistent_and_atomic ⟨0⟩ furnishing
  refine ⟨hconsistent, hversion.trans ?_, hupdates.trans ?_, hnext (.insertPod lateWorker) _ rfl, fun m => ?_, ?_⟩
  · decide +kernel
  · decide +kernel
  · exact hothers (.insertPod lateWorker) _ m (by decide +kernel)
  · have hfails : call.answered s = false := by decide +kernel
    have hleft : ((call.op : StoreM MemoryStore call.Answer).run s).2.failures = [(.deletePod, .exchange)] := by
      decide +kernel
    unfold StoreCall.answered at hfails
    rcases hrun : (call.op : StoreM MemoryStore call.Answer).run s with ⟨e | answer, s'⟩
    · rw [hrun] at hleft
      refine ⟨e, ?_⟩
      rw [← hleft]
      exact congrArg _ (hrefused call e s' hrun).1
    · rw [hrun] at hfails
      exact absurd hfails (by simp [Except.isOk, Except.toBool])

end TrainingJobs
