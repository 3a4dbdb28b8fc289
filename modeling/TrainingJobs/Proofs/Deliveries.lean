/-
What is on its way.

While a creation or deletion has not been reported, the record under which it was announced has to count it:
else the gate would open too early. A record `owes` so many reports, and a scene `Covers` a key when the record
owes at least as many as are on their way. Whatever happens beside the passes (`Scene.Drift`) keeps that: pods
change as they like, a creation that timed out happens after all, and a report is taken by the handlers, which
lower exactly the record under which it was counted. All of it is said once, of one drift (`Drift.follows`).
-/
import TrainingJobs.Proofs.Anatomy
import TrainingJobs.Proofs.Housing

set_option autoImplicit false

namespace TrainingJobs

open Controller

/-! ## What a record owes -/

/-- Something comes, or it goes. -/
inductive Direction where
  | coming
  | going
  deriving DecidableEq

/-- One report in one direction. -/
def Direction.once (way direction : Direction) : Int := if direction = way then 1 else 0

theorem Direction.once_self (way : Direction) : way.once way = 1 := if_pos rfl

theorem Direction.once_of_ne {way direction : Direction} (h : direction ≠ way) : way.once direction = 0 :=
  if_neg h

theorem Direction.once_nonneg (way direction : Direction) : 0 ≤ way.once direction := by
  unfold once
  split <;> decide

/-- How many reports in a direction a record waits for. -/
def Expectation.count (r : Expectation) : Direction → Int
  | .coming => r.adds
  | .going => r.dels

namespace Expectations

variable {e : Expectations} {key k : ExpectationKey} {now : Timestamp} {amount : Direction → Int}

/-- How many reports in a direction are waited for under a key. -/
def owed (e : Expectations) (key : ExpectationKey) (direction : Direction) : Int :=
  match e.records.get? key with
  | some record => record.count direction
  | none => 0

/-- No open record has expired. -/
def Punctual (e : Expectations) (now : Timestamp) : Prop :=
  ∀ key record, e.records.get? key = some record → record.fulfilled = false →
    isExpired record.recordedAt now e.timeout = false

instance (e : Expectations) (now : Timestamp) : Decidable (e.Punctual now) :=
  decidable_of_iff
    (∀ x ∈ e.records.entries, x.2.fulfilled = false → isExpired x.2.recordedAt now e.timeout = false)
    ⟨fun h key record hrecord => h (key, record) (Dict.get?_eq_some_iff.1 hrecord),
      fun h x hx => h x.1 x.2 (Dict.get?_eq_some_iff.2 hx)⟩

/-- What is newly expected under a key is owed there, in both directions, and elsewhere nothing changes. -/
theorem owed_set (e : Expectations) (key k : ExpectationKey) (amount : Direction → Int) (now : Timestamp)
    (direction : Direction) : (e.set key (amount .coming) (amount .going) now).owed k direction =
      if k = key then amount direction else e.owed k direction := by
  unfold owed set
  by_cases hk : k = key
  · subst hk
    rw [Dict.get?_insert_self, if_pos rfl]
    cases direction <;> rfl
  · rw [Dict.get?_insert_ne _ _ hk, if_neg hk]

/-- A record that is lowered owes that much less; where there is none, nothing was owed. -/
theorem owed_lower (hamount : ∀ direction, 0 ≤ amount direction) (e : Expectations) (key k : ExpectationKey)
    (direction : Direction) : e.owed k direction - (if k = key then amount direction else 0) ≤
      (e.lower key (amount .coming) (amount .going)).owed k direction := by
  unfold owed lower
  by_cases hk : k = key
  · subst hk
    rw [Dict.get?_modify_self, if_pos rfl]
    have hdirection := hamount direction
    -- A key without a record owes nothing and lowering creates none.
    rcases e.records.get? k with _ | record
    · simp only [Option.map_none]
      omega
    · cases direction <;> exact Int.le_refl _
  · rw [Dict.get?_modify_ne _ _ hk, if_neg hk]
    exact Int.sub_le_self _ (Int.le_refl 0)

/-- Under a key that holds nothing up, nothing is owed, unless the record has expired. -/
theorem owed_le_zero (h : e.satisfied key now = true) (hpunctual : e.Punctual now) (direction : Direction) :
    e.owed key direction ≤ 0 := by
  unfold owed
  rcases hrecord : e.records.get? key with _ | record
  · exact Int.le_refl 0
  · have hfulfilled : record.fulfilled = true := by
      -- An open record is not expired while the book is punctual, so satisfied means fulfilled.
      rcases satisfied_iff.1 h record hrecord with hdone | hexpired
      · exact hdone
      · rcases hopen : record.fulfilled with _ | _
        · rw [hpunctual key record hrecord hopen] at hexpired
          exact absurd hexpired (by decide)
        · rfl
    unfold Expectation.fulfilled at hfulfilled
    simp only [Bool.and_eq_true, decide_eq_true_eq] at hfulfilled
    cases direction
    · exact hfulfilled.1
    · exact hfulfilled.2

/-- What is recorded now has not expired. -/
theorem Punctual.set (h : e.Punctual now) (key : ExpectationKey) (adds dels : Int) :
    (e.set key adds dels now).Punctual now := by
  intro k record hrecord hopen
  by_cases hk : k = key
  · subst hk
    unfold Expectations.set at hrecord
    rw [Dict.get?_insert_self, Option.some.injEq] at hrecord
    subst hrecord
    -- The new record is no time old.
    unfold isExpired Timestamp.since
    rw [Int.sub_self]
    exact decide_eq_false (Nat.not_lt_zero _)
  · unfold Expectations.set at hrecord
    rw [Dict.get?_insert_ne _ _ hk] at hrecord
    exact h k record hrecord hopen

/-- A record that is lowered gets no older, and if it is open then it was open before. -/
theorem Punctual.lower (h : e.Punctual now) {adds dels : Int} (hadds : 0 ≤ adds) (hdels : 0 ≤ dels)
    (key : ExpectationKey) : (e.lower key adds dels).Punctual now := by
  intro k record hrecord hopen
  by_cases hk : k = key
  · subst hk
    unfold Expectations.lower at hrecord
    rw [Dict.get?_modify_self] at hrecord
    obtain ⟨old, hold, rfl⟩ := Option.map_eq_some_iff.1 hrecord
    -- Lowering only helps fulfilment, so a record still open was open before, with the same age.
    refine h k old hold ?_
    refine Bool.eq_false_iff.2 fun hdone => Bool.eq_false_iff.1 hopen ?_
    unfold Expectation.fulfilled Expectation.lower at *
    simp only [Bool.and_eq_true, decide_eq_true_eq] at *
    omega
  · unfold Expectations.lower at hrecord
    rw [Dict.get?_modify_ne _ _ hk] at hrecord
    exact h k record hrecord hopen

end Expectations

/-! ## Reports -/

namespace Sighting

def way : Sighting → Direction
  | podAdded _ | serviceAdded _ => .coming
  | podDeleted _ | serviceDeleted _ | jobDeleted _ => .going

def kind : Sighting → Controllee
  | podAdded _ | podDeleted _ | jobDeleted _ => .pods
  | serviceAdded _ | serviceDeleted _ => .services

/-- The key under which it is expected. -/
def key? : Sighting → Option ExpectationKey
  | podAdded pod | podDeleted pod => expectationKey? .pods pod
  | serviceAdded service | serviceDeleted service => expectationKey? .services service
  | jobDeleted _ => none

/-- The report is one of those that are counted under the key. -/
def settles (direction : Direction) (key : ExpectationKey) (sighting : Sighting) : Bool :=
  direction = sighting.way && sighting.key? = some key

/-- It is about a pod or service that was made for a slot of the job at `a`. -/
def MadeFor (a : Address) (replicaType : String) : Sighting → Prop
  | podAdded pod | podDeleted pod => ∃ index, pod.metadata.MadeFor a.ns a.name replicaType index
  | serviceAdded service | serviceDeleted service =>
    ∃ index, service.metadata.MadeFor a.ns a.name replicaType index
  | jobDeleted _ => False

/-- The same event, as it is seen: the object may have changed since in everything but its marks. -/
inductive Shows : Sighting → Sighting → Prop where
  | podAdded {pod pod' : Pod} (h : pod.metadata.SameMarks pod'.metadata) : Shows (.podAdded pod) (.podAdded pod')
  | podDeleted {pod pod' : Pod} (h : pod.metadata.SameMarks pod'.metadata) :
    Shows (.podDeleted pod) (.podDeleted pod')
  | serviceAdded {service service' : Service} (h : service.metadata.SameMarks service'.metadata) :
    Shows (.serviceAdded service) (.serviceAdded service')
  | serviceDeleted {service service' : Service} (h : service.metadata.SameMarks service'.metadata) :
    Shows (.serviceDeleted service) (.serviceDeleted service')

/-- What changes or not, a pod or service can be seen as it was. -/
theorem Shows.refl_of_key {sighting : Sighting} (h : sighting.key?.isSome = true) : sighting.Shows sighting := by
  cases sighting with
  | podAdded pod => exact .podAdded ⟨rfl, rfl, rfl, rfl, rfl⟩
  | podDeleted pod => exact .podDeleted ⟨rfl, rfl, rfl, rfl, rfl⟩
  | serviceAdded service => exact .serviceAdded ⟨rfl, rfl, rfl, rfl, rfl⟩
  | serviceDeleted service => exact .serviceDeleted ⟨rfl, rfl, rfl, rfl, rfl⟩
  | jobDeleted job => exact absurd h (by simp [key?])

section MadeFor

variable {a : Address} {replicaType : String} {sighting : Sighting} (h : sighting.MadeFor a replicaType)
  (ht : IsReplicaType replicaType)
include h ht

/-- An object that was made for a slot is expected under the key of the job and the type of the slot. -/
theorem MadeFor.key?_eq : sighting.key? = some (.of (keyFor a.ns a.name) replicaType sighting.kind) := by
  cases sighting with
  | podAdded pod | podDeleted pod => exact h.elim fun _ hmade => expectationKey?_made hmade ht .pods
  | serviceAdded service | serviceDeleted service =>
    exact h.elim fun _ hmade => expectationKey?_made hmade ht .services
  | jobDeleted job => exact h.elim

/-- It is counted in one direction under one key. -/
theorem MadeFor.settles_iff (direction : Direction) (key : ExpectationKey) :
    sighting.settles direction key = true ↔
      direction = sighting.way ∧ key = .of (keyFor a.ns a.name) replicaType sighting.kind := by
  unfold settles
  rw [h.key?_eq ht, Bool.and_eq_true, decide_eq_true_iff, decide_eq_true_iff, Option.some.injEq,
    eq_comm (b := key)]

/-- The handler that is told of it lowers the record under that key, and by just this one. -/
theorem MadeFor.take_eq {seen : Sighting} (hseen : sighting.Shows seen) (c : Controller MemoryStore) :
    seen.take c = expected (fun x => x.lower (.of (keyFor a.ns a.name) replicaType sighting.kind)
      (sighting.way.once .coming) (sighting.way.once .going)) c := by
  cases hseen with
  | @podAdded pod seen hmarks =>
    obtain ⟨index, hmade⟩ := h
    have hseen := hmade.of_sameMarks hmarks
    -- A pod that is not leaving counts as appeared.
    have hstays : seen.isLeaving = false := by
      unfold Pod.isLeaving
      rw [hseen.staying]
      rfl
    change c.podAdded seen = _
    unfold Controller.podAdded
    rw [hstays, if_neg Bool.false_ne_true]
    exact observeCreation_made hseen ht .pods c
  | podDeleted hmarks => exact h.elim fun _ hmade => observeDeletion_made (hmade.of_sameMarks hmarks) ht .pods c
  | serviceAdded hmarks =>
    exact h.elim fun _ hmade => observeCreation_made (hmade.of_sameMarks hmarks) ht .services c
  | serviceDeleted hmarks =>
    exact h.elim fun _ hmade => observeDeletion_made (hmade.of_sameMarks hmarks) ht .services c

end MadeFor

end Sighting

/-! ## What happens beside the passes -/

namespace Scene

/-- One thing that happens while the passes run. -/
inductive Drift : Scene → Scene → Prop where
  /-- The clock of the store shows another time. -/
  | clock (s : Scene) (now : Timestamp) : Drift s (s.withStore { s.controller.store with clock := now })
  /-- A pod changes, in its phase or in anything else but its marks. -/
  | pod (s : Scene) {x : Address} {pod pod' : Pod} (h : s.controller.store.pods.get? x = some pod)
      (hmarks : pod.metadata.SameMarks pod'.metadata) :
    Drift s (s.withStore { s.controller.store with pods := s.controller.store.pods.insert x pod' })
  /-- Retries are counted or forgotten, of whichever job. -/
  | retries (s : Scene) (retries : Retries) : Drift s (s.withController { s.controller with retries := retries })
  /-- Something is told. -/
  | told (s : Scene) (events : List Event) :
    Drift s (s.withController { s.controller with events := s.controller.events ++ events })
  /-- A creation is going to time out. -/
  | timeout (s : Scene) {op : StoreOp} {e : OperatorError}
      (hop : op = .createPod ∨ op = .createService ∨ op = .createPodGroup) (he : e.isTimeout = true) :
    Drift s (s.withStore (s.controller.store.failNext op e))
  /-- The creation of a pod that timed out happens after all. -/
  | podMade (s : Scene) {before after : List Notice} {notice : Notice} {pod : Pod}
      (h : s.unreported = before ++ notice :: after) (hsighting : notice.sighting = .podAdded pod)
      (hfree : s.controller.store.pods.get? pod.metadata.address = none) :
    Drift s { s.withStore (MemoryStore.withPod pod.metadata.address.ns pod s.controller.store) with
      unreported := before ++ { notice with happened := true } :: after }
  | serviceMade (s : Scene) {before after : List Notice} {notice : Notice} {service : Service}
      (h : s.unreported = before ++ notice :: after) (hsighting : notice.sighting = .serviceAdded service)
      (hfree : s.controller.store.services.get? service.metadata.address = none) :
    Drift s { s.withStore (MemoryStore.withService service.metadata.address.ns service s.controller.store) with
      unreported := before ++ { notice with happened := true } :: after }
  /-- The watch reports what has happened, and does not report it again. -/
  | reported (s : Scene) {before after : List Notice} {notice : Notice} {seen : Sighting}
      (h : s.unreported = before ++ notice :: after) (hhappened : notice.happened = true)
      (hseen : notice.sighting.Shows seen) :
    Drift s { s.withController (seen.take s.controller) with unreported := before ++ after }

/-- Any number of things that happen one after the other. -/
inductive Drifts : Scene → Scene → Prop where
  | refl (s : Scene) : Drifts s s
  | step {s s' s'' : Scene} (h : Drift s s') (h' : Drifts s' s'') : Drifts s s''

theorem Drifts.single {s s' : Scene} (h : Drift s s') : Drifts s s' := .step h (.refl s')

/-- How many reports are on their way, or may come, that are counted under the key. -/
def underway (s : Scene) (key : ExpectationKey) (direction : Direction) : Nat :=
  s.unreported.countP fun notice => notice.sighting.settles direction key

/-- The record under the key owes the reports that are on their way, and `more`. -/
def Covers (s : Scene) (key : ExpectationKey) (more : Direction → Int) : Prop :=
  ∀ direction, s.underway key direction + more direction ≤ s.controller.expectations.owed key direction

end Scene

/-- What is to be reported was made for the job at `a`. If it is not part of the cleaning up, it was made for a
slot of one of these replica types. -/
def Notice.Concerns (a : Address) (types : List String) (notice : Notice) : Prop :=
  ∃ replicaType, IsReplicaType replicaType ∧ notice.sighting.MadeFor a replicaType ∧
    (notice.purpose ≠ .cleanUp → replicaType ∈ types)

namespace Scene

variable {a : Address} {types : List String} {s s' s'' : Scene} {now : Timestamp}

/-- Everything is where it belongs, nothing but creations fails, and nothing was asked for too early. -/
structure InOrder (a : Address) (types : List String) (s : Scene) : Prop where
  pods : Housed s.controller.store.pods
  services : Housed s.controller.store.services
  failures : ∀ f ∈ s.controller.store.failures,
    (f.1 = .createPod ∨ f.1 = .createService ∨ f.1 = .createPodGroup) ∧ f.2.isTimeout = true
  notices : ∀ notice ∈ s.unreported, notice.Concerns a types
  pleas : ∀ plea ∈ s.pleas, plea.purpose ≠ .cleanUp → plea.early = false

/-- What a scene had that is in order, the later scene has, too. -/
structure Upholds (a : Address) (types : List String) (s s' : Scene) : Prop where
  inOrder : s'.InOrder a types
  awaits : s.awaits = false → s'.awaits = false
  underway : ∀ key direction, s'.underway key direction ≤ s.underway key direction
  covers : ∀ key more, s.Covers key more → s'.Covers key more
  punctual : ∀ now, s.controller.expectations.Punctual now → s'.controller.expectations.Punctual now

/-- And the jobs are stored as they were. -/
structure Follows (a : Address) (types : List String) (s s' : Scene) : Prop extends s.Upholds a types s' where
  jobs : s'.controller.store.jobs = s.controller.store.jobs

/-- What is expected has no part in what is in order. -/
theorem InOrder.expecting (hs : s.InOrder a types) (f : Expectations → Expectations) :
    (s.withController (expected f s.controller)).InOrder a types :=
  ⟨hs.pods, hs.services, hs.failures, hs.notices, hs.pleas⟩

/-- What follows on what follows does so on the first. -/
theorem Follows.trans (h : s.Follows a types s') (h' : s'.Follows a types s'') : s.Follows a types s'' where
  inOrder := h'.inOrder
  jobs := h'.jobs.trans h.jobs
  awaits := h'.awaits ∘ h.awaits
  underway key direction := Nat.le_trans (h'.underway key direction) (h.underway key direction)
  covers key more := h'.covers key more ∘ h.covers key more
  punctual now := h'.punctual now ∘ h.punctual now

/-- Nothing changes in the books or in what is expected. -/
theorem InOrder.upholds (hs' : s'.InOrder a types) (hpasses : s'.passes = s.passes)
    (hunreported : s'.unreported = s.unreported)
    (hexpectations : s'.controller.expectations = s.controller.expectations) : s.Upholds a types s' where
  inOrder := hs'
  awaits h := by
    unfold awaits at h ⊢
    rw [hunreported, hpasses]
    exact h
  underway key direction := by
    refine Nat.le_of_eq ?_
    unfold Scene.underway
    rw [hunreported]
  covers key more h := by
    unfold Covers Scene.underway at h ⊢
    rw [hunreported, hexpectations]
    exact h
  punctual now h := by
    rw [hexpectations]
    exact h

theorem Follows.refl (hs : s.InOrder a types) : s.Follows a types s := ⟨hs.upholds rfl rfl rfl, rfl⟩

section Drift

variable {before after : List Notice} {notice : Notice}

/-- A notice that changes in nothing but in whether it has happened is on its way as it was. -/
theorem InOrder.follows_happened (hs' : s'.InOrder a types)
    (h : s.unreported = before ++ notice :: after)
    (h' : s'.unreported = before ++ { notice with happened := true } :: after)
    (hjobs : s'.controller.store.jobs = s.controller.store.jobs) (hpasses : s'.passes = s.passes)
    (hexpectations : s'.controller.expectations = s.controller.expectations) : s.Follows a types s' where
  inOrder := hs'
  jobs := hjobs
  -- Only whether the notice has happened differs, and none of these three counts looks at it.
  awaits hclear := by
    unfold awaits at hclear ⊢
    rw [h, List.any_append, List.any_cons] at hclear
    rw [h', List.any_append, List.any_cons, hpasses]
    exact hclear
  underway key direction := by
    refine Nat.le_of_eq ?_
    unfold Scene.underway
    rw [h, h', List.countP_append, List.countP_append, List.countP_cons, List.countP_cons]
  covers key more hcovers := by
    intro direction
    have hdirection := hcovers direction
    unfold Scene.underway at hdirection ⊢
    rw [h, List.countP_append, List.countP_cons] at hdirection
    rw [h', hexpectations, List.countP_append, List.countP_cons]
    exact hdirection
  punctual now hpunctual := by
    rw [hexpectations]
    exact hpunctual

/-- That a notice has come true changes nothing about whom it concerns. -/
theorem InOrder.concerns_happened (hs : s.InOrder a types) (h : s.unreported = before ++ notice :: after) :
    ∀ n ∈ before ++ { notice with happened := true } :: after, n.Concerns a types := by
  have hnotices := hs.notices
  rw [h, List.forall_mem_append, List.forall_mem_cons] at hnotices
  rw [List.forall_mem_append, List.forall_mem_cons]
  exact hnotices

/-- A report that is taken is one less on its way, and one less that its record owes. -/
theorem InOrder.follows_reported (hs : s.InOrder a types) (h : s.unreported = before ++ notice :: after)
    {seen : Sighting} (hseen : notice.sighting.Shows seen) :
    s.Follows a types { s.withController (seen.take s.controller) with unreported := before ++ after } := by
  have hnotices := hs.notices
  rw [h, List.forall_mem_append, List.forall_mem_cons] at hnotices
  obtain ⟨hbefore, ⟨replicaType, ht, hmade, -⟩, hafter⟩ := hnotices
  have hsettles := hmade.settles_iff ht
  rw [hmade.take_eq ht hseen]
  generalize notice.sighting.way = way, notice.sighting.kind = kind at hsettles
  have hinOrder : ({ s.withController (expected (fun x => x.lower (.of (keyFor a.ns a.name) replicaType kind)
      (way.once .coming) (way.once .going)) s.controller) with unreported := before ++ after } : Scene).InOrder a types :=
    ⟨hs.pods, hs.services, hs.failures, List.forall_mem_append.2 ⟨hbefore, hafter⟩, hs.pleas⟩
  refine ⟨⟨hinOrder, fun hclear => ?_, fun key direction => ?_, fun key more hcovers direction => ?_,
    fun now hpunctual => ?_⟩, rfl⟩
  · unfold awaits at hclear ⊢
    rw [h, List.any_append, List.any_cons, Bool.or_eq_false_iff, Bool.or_eq_false_iff] at hclear
    exact (List.any_append ..).trans (Bool.or_eq_false_iff.2 ⟨hclear.1, hclear.2.2⟩)
  · unfold Scene.underway
    rw [h, List.countP_append, List.countP_append, List.countP_cons]
    omega
  · have hdirection := hcovers direction
    unfold Scene.underway at hdirection ⊢
    have howed := Expectations.owed_lower (Direction.once_nonneg way) s.controller.expectations
      (.of (keyFor a.ns a.name) replicaType kind) key direction
    rw [h, List.countP_append, List.countP_cons] at hdirection
    change ((List.countP _ (before ++ after) : Nat) : Int) + more direction ≤
      (s.controller.expectations.lower _ _ _).owed key direction
    rw [List.countP_append]
    -- The report counts under the one key where its record is lowered, and under no other.
    by_cases hkey : key = .of (keyFor a.ns a.name) replicaType kind
    · rw [if_pos hkey] at howed
      by_cases hway : direction = way
      · rw [if_pos ((hsettles _ _).2 ⟨hway, hkey⟩)] at hdirection
        subst hway
        rw [Direction.once_self] at howed
        omega
      · rw [if_neg fun hboth => hway ((hsettles _ _).1 hboth).1] at hdirection
        rw [Direction.once_of_ne hway] at howed
        omega
    · rw [if_neg fun hboth => hkey ((hsettles _ _).1 hboth).2] at hdirection
      rw [if_neg hkey] at howed
      omega
  · exact hpunctual.lower (Direction.once_nonneg _ _) (Direction.once_nonneg _ _) _

end Drift

variable (ha : Slashless a.name)
include ha

/-- **Whatever happens beside the passes leaves in order what was**, and what is on its way covered. -/
theorem Drift.follows (h : Drift s s') (hs : s.InOrder a types) : s.Follows a types s' := by
  -- The first five leave the reports alone; the two late creations go where nothing is.
  cases h with
  | clock now =>
    exact ⟨InOrder.upholds ⟨hs.pods, hs.services, hs.failures, hs.notices, hs.pleas⟩ rfl rfl rfl, rfl⟩
  | @pod x pod pod' hpod hmarks =>
    have hpods := hs.pods.insert ((hs.pods x pod hpod).of_sameMarks hmarks)
    exact ⟨InOrder.upholds ⟨hpods, hs.services, hs.failures, hs.notices, hs.pleas⟩ rfl rfl rfl, rfl⟩
  | retries retries =>
    exact ⟨InOrder.upholds ⟨hs.pods, hs.services, hs.failures, hs.notices, hs.pleas⟩ rfl rfl rfl, rfl⟩
  | told events =>
    exact ⟨InOrder.upholds ⟨hs.pods, hs.services, hs.failures, hs.notices, hs.pleas⟩ rfl rfl rfl, rfl⟩
  | timeout hop he =>
    refine ⟨InOrder.upholds ⟨hs.pods, hs.services, ?_, hs.notices, hs.pleas⟩ rfl rfl rfl, rfl⟩
    exact List.forall_mem_append.2 ⟨hs.failures, List.forall_mem_singleton.2 ⟨hop, he⟩⟩
  | @podMade before after notice pod hnotice hsighting hfree =>
    obtain ⟨replicaType, ht, hmade, -⟩ := hs.notices notice (hnotice ▸ List.mem_append_right _ List.mem_cons_self)
    rw [hsighting] at hmade
    obtain ⟨index, hmade⟩ := hmade
    have hplace : pod.metadata.address.ns = a.ns := congrArg (fun ns => ns.getD "") hmade.place
    refine InOrder.follows_happened ⟨?_, hs.services, hs.failures, hs.concerns_happened hnotice, hs.pleas⟩
      hnotice rfl rfl rfl rfl
    rw [hplace]
    exact hs.pods.insert_asPlaced s.controller.store (o := MemoryStore.asCreated pod) ha ht hmade
  | @serviceMade before after notice service hnotice hsighting hfree =>
    obtain ⟨replicaType, ht, hmade, -⟩ := hs.notices notice (hnotice ▸ List.mem_append_right _ List.mem_cons_self)
    rw [hsighting] at hmade
    obtain ⟨index, hmade⟩ := hmade
    have hplace : service.metadata.address.ns = a.ns := congrArg (fun ns => ns.getD "") hmade.place
    refine InOrder.follows_happened ⟨hs.pods, ?_, hs.failures, hs.concerns_happened hnotice, hs.pleas⟩
      hnotice rfl rfl rfl rfl
    rw [hplace]
    exact hs.services.insert_asPlaced s.controller.store (o := service) ha ht hmade
  | reported hnotice _ hseen => exact hs.follows_reported hnotice hseen

/-- However the world drifts, the scene stays in order. -/
theorem Drifts.follows (h : Drifts s s') (hs : s.InOrder a types) : s.Follows a types s' := by
  induction h with
  | refl s => exact .refl hs
  | step hdrift _ ih =>
    have hfollows := hdrift.follows ha hs
    exact hfollows.trans (ih hfollows.inOrder)

omit ha in
/-- Only creations are refused by what is lined up. -/
theorem InOrder.takeFailure?_eq_none (hs : s.InOrder a types) {op : StoreOp}
    (hop : op ≠ .createPod ∧ op ≠ .createService ∧ op ≠ .createPodGroup) :
    MemoryStore.takeFailure? op s.controller.store.failures = none := by
  refine MemoryStore.takeFailure?_eq_none fun f hf => ?_
  obtain ⟨hcreates, -⟩ := hs.failures f hf
  rintro rfl
  exact hcreates.elim hop.1 fun hcreates => hcreates.elim hop.2.1 hop.2.2

omit ha in
/-- A request that leaves pods and services alone is as good as none. -/
theorem InOrder.upholds_aside {α : Type} (hs : s.InOrder a types) (op : StoreM MemoryStore α)
    (h : ∀ store : MemoryStore, store.SameObjects (op.run store).2) :
    s.Upholds a types (s.perform (.other op h)).2 := by
  have hsame := h s.controller.store
  have hunreported : (s.perform (.other op h)).2.unreported = s.unreported := List.append_nil _
  have hpleas : (s.perform (.other op h)).2.pleas = s.pleas := List.append_nil _
  exact InOrder.upholds ⟨hsame.pods ▸ hs.pods, hsame.services ▸ hs.services,
    fun f hf => hs.failures f (hsame.failures.subset hf), hunreported ▸ hs.notices, hpleas ▸ hs.pleas⟩
    rfl hunreported rfl

/-- What it says of a scene in order it also says of every scene that follows. -/
structure Lasting (a : Address) (types : List String) (P : Scene → Prop) : Prop where
  inOrder : ∀ s, P s → s.InOrder a types
  follows : ∀ s s', P s → s.Follows a types s' → P s'

omit ha in
/-- What lasts between the parts of a pass is stable under all that others do. -/
theorem Lasting.stable {P : Scene → Prop} (hP : Lasting a types P) (ha : Slashless a.name) : Stable Drifts P :=
  fun s s' hs hdrifts => hP.follows s s' hs (hdrifts.follows ha (hP.inOrder s hs))

end Scene

namespace Composition

open Scene

/-! ## Telling -/

section Telling

variable {P : Scene → Prop} {failed : OperatorError → Scene → Prop} (hP : Stable Drifts P)
include hP

/-- What is told is nothing that others could not have told. -/
theorem leads_tellAll (events : List Event) : Leads Drifts P (tellAll events) (fun _ => P) failed :=
  leads_own hP fun s hs => hP s _ hs (.single (.told s events))

theorem leads_tell (event : Event) : Leads Drifts P (tell event) (fun _ => P) failed :=
  leads_own hP fun s hs => hP s _ hs (.single (.told s [event]))

end Telling

/-! ## Requests aside -/

section Aside

variable {α : Type} {a : Address} {types : List String} {P : Scene → Prop} {op : StoreM MemoryStore α}
  {h : ∀ store : MemoryStore, store.SameObjects (op.run store).2} (hP : Lasting a types P)
  (ha : Slashless a.name)
include hP ha

/-- A request that leaves the jobs alone, too, changes nothing that matters. -/
theorem leads_aside (hjobs : ∀ store : MemoryStore, (op.run store).2.jobs = store.jobs) :
    Leads Drifts P (.errand (.other op h)) (fun _ => P) fun _ => P :=
  leads_errand (hP.stable ha)
    (fun s hs _ _ => hP.follows s _ hs ⟨(hP.inOrder s hs).upholds_aside op h, hjobs _⟩)
    fun s hs _ _ => hP.follows s _ hs ⟨(hP.inOrder s hs).upholds_aside op h, hjobs _⟩

/-- What is read is what is there. -/
theorem leads_read {f : MemoryStore → α} {failed : OperatorError → Scene → Prop}
    (hrun : ∀ s, P s → op.run s.controller.store = (.ok (f s.controller.store), s.controller.store)) :
    Leads Drifts P (.errand (.other op h)) (fun answer s => P s ∧ answer = f s.controller.store) failed := by
  refine leads_errand (hP.stable ha) (fun s hs answer hok => ?_) fun s hs e herror => ?_
  · have hstore : (s.perform (.other op h)).2.controller.store = s.controller.store :=
      congrArg Prod.snd (hrun s hs)
    change (op.run s.controller.store).1 = _ at hok
    rw [hrun s hs] at hok
    rw [hstore]
    exact ⟨hP.follows s _ hs ⟨(hP.inOrder s hs).upholds_aside op h, congrArg MemoryStore.jobs hstore⟩,
      (Except.ok.inj hok).symm⟩
  · change (op.run s.controller.store).1 = _ at herror
    rw [hrun s hs] at herror
    exact absurd herror (by simp)

end Aside

end Composition

end TrainingJobs
