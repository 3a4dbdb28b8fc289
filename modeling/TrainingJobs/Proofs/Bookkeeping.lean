/-
What a pass asks for is covered.

Before a pass asks for anything under a key it records how much that will be, and every request that is made turns
one report that is still to be asked for into one that is on its way; what is not asked for any more is taken
out of the record. So at every moment of a pass the record covers what is on its way and what is still to be
asked for (`Scene.Advancing`), however the requests are answered and whatever happens in between.
-/
import TrainingJobs.Proofs.Deliveries
import TrainingJobs.Proofs.Seating

set_option autoImplicit false

namespace TrainingJobs

open Controller

/-- The replica types of a stored job, when its spec is filled in. -/
def Job.replicaTypes (stored : Job) : List String := stored.withDefaults.spec.replicaSpecs.keys

/-! ## Errands -/

namespace MemoryStore

variable {a x : Address} {s s' : MemoryStore} {replicaType : String} {index : Nat}

/-- What stands at home still does, and no failure was lined up. -/
structure Tidy (s s' : MemoryStore) : Prop where
  pods : Housed s.pods → Housed s'.pods
  services : Housed s.services → Housed s'.services
  failures : s'.failures.Sublist s.failures

/-- A request that is made or refused leaves the store tidy, if what it asks for does. -/
theorem Tidy.of_effect {change : MemoryStore → MemoryStore} (h : Effect change s s')
    (hchange : s.Tidy (change s)) : s.Tidy s' := by
  cases h with
  | refused failures hsub => exact ⟨id, id, hsub⟩
  | made => exact hchange

/-- A pod that is made for a slot stands at home there. -/
theorem tidy_withPod {pod : Pod} (ha : Slashless a.name) (ht : IsReplicaType replicaType)
    (h : pod.metadata.MadeFor a.ns a.name replicaType index) : s.Tidy (withPod a.ns pod s) where
  pods hpods := hpods.insert_asPlaced s (o := asCreated pod) ha ht h
  services := id
  failures := .refl _

/-- So does a service. -/
theorem tidy_withService {service : Service} (ha : Slashless a.name) (ht : IsReplicaType replicaType)
    (h : service.metadata.MadeFor a.ns a.name replicaType index) : s.Tidy (withService a.ns service s) where
  pods := id
  services hservices := hservices.insert_asPlaced s ha ht h
  failures := .refl _

theorem tidy_withoutPod (x : Address) (s : MemoryStore) : s.Tidy (withoutPod x s) :=
  ⟨fun h => h.erase x, id, .refl _⟩

theorem tidy_withoutService (x : Address) (s : MemoryStore) : s.Tidy (withoutService x s) :=
  ⟨id, fun h => h.erase x, .refl _⟩

end MemoryStore

namespace Errand

variable {α : Type} {pass : Nat} {s : MemoryStore} {notice : Notice}

/-- Only a creation that is made or times out comes to something. -/
theorem of_creation? {sighting : Sighting} {answer : Except OperatorError α}
    (h : creation? pass sighting answer = some notice) :
    notice.pass = pass ∧ notice.purpose = .creation ∧ notice.sighting = sighting := by
  unfold creation? at h
  split at h
  · exact Option.some.inj h ▸ ⟨rfl, rfl, rfl⟩
  · split at h
    · exact Option.some.inj h ▸ ⟨rfl, rfl, rfl⟩
    · exact absurd h (by simp)

/-- A deletion comes to something where there is something to be taken away. -/
theorem of_deletion? {purpose : Purpose} {gone : Option Sighting} {answer : Except OperatorError α}
    (h : deletion? pass purpose gone answer = some notice) :
    notice.pass = pass ∧ notice.purpose = purpose ∧ gone = some notice.sighting := by
  unfold deletion? at h
  split at h
  · obtain ⟨sighting, hgone, rfl⟩ := Option.map_eq_some_iff.1 h
    exact ⟨rfl, rfl, hgone⟩
  · exact absurd h (by simp)

/-- What is to be reported of an errand was asked for in the pass that ran it. -/
theorem pass_eq {e : Errand α} {answer : Except OperatorError α} (h : e.notice? pass s answer = some notice) :
    notice.pass = pass := by
  cases e with
  | createPod ns pod => exact (of_creation? h).1
  | createService ns service => exact (of_creation? h).1
  | deletePod purpose x => exact (of_deletion? h).1
  | deleteService x => exact (of_deletion? h).1
  | other op hop => exact absurd h (by simp [notice?])

/-- What a deletion takes away stood at the address. -/
theorem of_deletePod {purpose : Purpose} {x : Address} {answer : Except OperatorError Unit}
    (h : (deletePod purpose x).notice? pass s answer = some notice) :
    ∃ pod, s.pods.get? x = some pod ∧ notice.purpose = purpose ∧ notice.sighting = .podDeleted pod := by
  obtain ⟨-, hpurpose, hgone⟩ := of_deletion? h
  obtain ⟨pod, hpod, hsighting⟩ := Option.map_eq_some_iff.1 hgone
  exact ⟨pod, hpod, hpurpose, hsighting.symm⟩

/-- A service goes with its pod only, when a job is cleaned up; so what is noticed of its deletion
has that purpose. -/
theorem of_deleteService {x : Address} {answer : Except OperatorError Unit}
    (h : (deleteService x).notice? pass s answer = some notice) :
    ∃ service, s.services.get? x = some service ∧ notice.purpose = .cleanUp ∧
      notice.sighting = .serviceDeleted service := by
  obtain ⟨-, hpurpose, hgone⟩ := of_deletion? h
  obtain ⟨service, hservice, hsighting⟩ := Option.map_eq_some_iff.1 hgone
  exact ⟨service, hservice, hpurpose, hsighting.symm⟩

/-- A deletion that is made has taken something away. -/
theorem notice?_deletePod {purpose : Purpose} {x : Address} {u : Unit}
    (h : ((ObjectStore.deletePod x : StoreM MemoryStore Unit).run s).1 = .ok u) :
    ∃ pod, (deletePod purpose x).notice? pass s (.ok u) = some ⟨pass, purpose, .podDeleted pod, true⟩ := by
  change ((MemoryStore.guarded .deletePod (MemoryStore.delete "Pod" _ _ x)).run s).1 = .ok u at h
  -- A refused call answers an error, and so does one that finds nothing: only a real deletion is left.
  rw [MemoryStore.run_guarded] at h
  split at h
  · exact absurd h (by simp)
  · rw [MemoryStore.run_delete] at h
    split at h
    · next hthere =>
      obtain ⟨pod, hpod⟩ := Option.isSome_iff_exists.1 hthere
      refine ⟨pod, ?_⟩
      change deletion? pass purpose ((s.pods.get? x).map _) (.ok u) = _
      rw [hpod]
      rfl
    · exact absurd h (by simp)

end Errand

namespace Scene

variable {α : Type} {a : Address} {types : List String} {s s' : Scene} {now : Timestamp} {stored : Job}
  {t : String} {kind : Controllee} {amount : Direction → Int}

/-- What the pass under way is noticed for does not change what is awaited of the passes before it. -/
theorem awaits_append {notices : List Notice} (hs' : s'.unreported = s.unreported ++ notices)
    (hpasses : s'.passes = s.passes) (hpass : ∀ notice ∈ notices, notice.pass = s.passes) :
    s'.awaits = s.awaits := by
  unfold awaits
  rw [hs', hpasses, List.any_append]
  -- What this pass asks for does not come from an earlier one.
  have hnone : (notices.any fun notice =>
      decide (notice.pass < s.passes) && notice.purpose != .cleanUp) = false := by
    rw [List.any_eq_false]
    intro notice hnotice
    rw [hpass notice hnotice, decide_eq_false (Nat.lt_irrefl _)]
    exact Bool.false_ne_true
  rw [hnone, Bool.or_false]

/-- An errand leaves everything in order if it leaves the store tidy, if what comes of it concerns the job, and
if it is not an early one. -/
theorem InOrder.perform (hs : s.InOrder a types) (e : Errand α)
    (htidy : s.controller.store.Tidy (e.op.run s.controller.store).2)
    (hnotice : ∀ notice, e.notice? s.passes s.controller.store (e.op.run s.controller.store).1 = some notice →
      notice.Concerns a types)
    (hplea : ∀ purpose, e.purpose? = some purpose → purpose ≠ .cleanUp → s.awaits = false) :
    (s.perform e).2.InOrder a types where
  pods := htidy.pods hs.pods
  services := htidy.services hs.services
  failures f hf := hs.failures f (htidy.failures.subset hf)
  notices := List.forall_mem_append.2 ⟨hs.notices, fun notice h => hnotice notice (Option.mem_toList.1 h)⟩
  pleas := by
    refine List.forall_mem_append.2 ⟨hs.pleas, fun plea hmem hpurpose => ?_⟩
    obtain ⟨purpose, h, rfl⟩ := List.mem_map.1 hmem
    exact hplea purpose (Option.mem_toList.1 h) hpurpose

/-- In a pass that brings the stored job in line: nothing is outstanding from an earlier pass, and the records of
the job cover what is on its way. Of one kind of objects of one replica type there is still something to be asked
for, and its record covers that, too. -/
structure Advancing (now : Timestamp) (stored : Job) (t : String) (kind : Controllee) (amount : Direction → Int)
    (s : Scene) : Prop where
  inOrder : s.InOrder stored.address stored.replicaTypes
  record : s.controller.store.jobs.get? stored.address = some stored
  clear : s.awaits = false
  punctual : s.controller.expectations.Punctual now
  covers : ∀ t' ∈ stored.replicaTypes, ∀ kind', s.Covers (.of stored.key t' kind') fun direction =>
    if ExpectationKey.of stored.key t' kind' = .of stored.key t kind then amount direction else 0

/-- There is nothing more to be asked for at the moment. -/
def Level (now : Timestamp) (stored : Job) (s : Scene) : Prop := s.Advancing now stored "" .pods fun _ => 0

/-- What others do while a creation or deletion is awaited changes nothing about how far the type has come. -/
theorem Advancing.of_follows (h : s.Advancing now stored t kind amount)
    (hfollows : s.Follows stored.address stored.replicaTypes s') : s'.Advancing now stored t kind amount where
  inOrder := hfollows.inOrder
  record := hfollows.jobs ▸ h.record
  clear := hfollows.awaits h.clear
  punctual := hfollows.punctual now h.punctual
  covers t' ht' kind' := hfollows.covers _ _ (h.covers t' ht' kind')

/-- So how far a type has come lasts between the parts of a pass. -/
theorem lasting_advancing :
    Lasting stored.address stored.replicaTypes (Advancing now stored t kind amount) :=
  ⟨fun _ h => h.inOrder, fun _ _ h => h.of_follows⟩

/-- It lasts through everything that happens in the world meanwhile, too. -/
theorem stable_advancing (hname : Slashless stored.name) : Stable Drifts (Advancing now stored t kind amount) :=
  lasting_advancing.stable hname

/-- When nothing is to be asked for, it does not matter of what. -/
theorem level_iff : s.Level now stored ↔ s.Advancing now stored t kind fun _ => 0 := by
  constructor
  all_goals
    intro h
    refine ⟨h.inOrder, h.record, h.clear, h.punctual, fun t' ht' kind' => ?_⟩
    have hcovers := h.covers t' ht' kind'
    simp only [ite_self] at hcovers ⊢
    exact hcovers

/-- Taking something out of the record leaves so much less to be asked for. -/
theorem Advancing.lower (h : s.Advancing now stored t kind amount) {spent : Direction → Int}
    (hspent : ∀ direction, 0 ≤ spent direction) :
    (s.withController (expected (fun x => x.lower (.of stored.key t kind) (spent .coming) (spent .going))
      s.controller)).Advancing now stored t kind fun direction => amount direction - spent direction where
  inOrder := h.inOrder.expecting _
  record := h.record
  clear := h.clear
  punctual := h.punctual.lower (hspent _) (hspent _) _
  covers t' ht' kind' direction := by
    have hcovers := h.covers t' ht' kind' direction
    have howed := Expectations.owed_lower hspent s.controller.expectations (.of stored.key t kind)
      (.of stored.key t' kind') direction
    change ((s.underway _ direction : Nat) : Int) + _ ≤ (s.controller.expectations.lower _ _ _).owed _ direction
    -- The key announced and any other: the amount is taken off the first only.
    simp only at hcovers ⊢
    split at hcovers
    · next hkey =>
      rw [if_pos hkey] at howed ⊢
      omega
    · next hkey =>
      rw [if_neg hkey] at howed ⊢
      omega

/-- Where nothing is on its way, a record covers what is written into it. -/
theorem Level.announce (h : s.Level now stored)
    (hidle : ∀ direction, s.underway (.of stored.key t kind) direction = 0) (amount : Direction → Int) :
    (s.withController (expected (fun x => x.set (.of stored.key t kind) (amount .coming) (amount .going) now)
      s.controller)).Advancing now stored t kind amount where
  inOrder := h.inOrder.expecting _
  record := h.record
  clear := h.clear
  punctual := h.punctual.set _ _ _
  covers t' ht' kind' direction := by
    have hcovers := h.covers t' ht' kind' direction
    change ((s.underway _ direction : Nat) : Int) + _ ≤ (s.controller.expectations.set _ _ _ _).owed _ direction
    rw [Expectations.owed_set]
    -- The new record replaces the old one, which `hidle` shows nothing is underway for.
    simp only [ite_self] at hcovers ⊢
    split
    · next hkey =>
      rw [hkey, hidle direction]
      omega
    · exact hcovers

/-- An errand of which something is to be reported turns one report that was still to be asked for into one that
is on its way; one that comes to nothing changes nothing. -/
theorem Advancing.perform (h : s.Advancing now stored t kind amount) (e : Errand α)
    (htidy : s.controller.store.Tidy (e.op.run s.controller.store).2)
    (hjobs : (e.op.run s.controller.store).2.jobs = s.controller.store.jobs)
    (ht : t ∈ stored.replicaTypes) (htype : IsReplicaType t)
    (hnotice : ∀ notice, e.notice? s.passes s.controller.store (e.op.run s.controller.store).1 = some notice →
      notice.sighting.MadeFor stored.address t ∧ notice.sighting.kind = kind) :
    (s.perform e).2.Advancing now stored t kind fun direction =>
      match e.notice? s.passes s.controller.store (e.op.run s.controller.store).1 with
      | some notice => amount direction - notice.sighting.way.once direction
      | none => amount direction := by
  have hunreported : (s.perform e).2.unreported =
      s.unreported ++ (e.notice? s.passes s.controller.store (e.op.run s.controller.store).1).toList := rfl
  have hinOrder : (s.perform e).2.InOrder stored.address stored.replicaTypes :=
    h.inOrder.perform e htidy (fun notice hsome => ⟨t, htype, (hnotice notice hsome).1, fun _ => ht⟩)
      fun _ _ _ => h.clear
  have hclear : (s.perform e).2.awaits = s.awaits :=
    awaits_append hunreported rfl fun notice hmem => Errand.pass_eq (Option.mem_toList.1 hmem)
  refine ⟨hinOrder, hjobs.symm ▸ h.record, hclear.trans h.clear, h.punctual, fun t' ht' kind' direction => ?_⟩
  have hcovers := h.covers t' ht' kind' direction
  change (((s.perform e).2.underway _ direction : Nat) : Int) + _ ≤ s.controller.expectations.owed _ direction
  unfold underway at hcovers ⊢
  rw [hunreported, List.countP_append]
  rcases hsome : e.notice? s.passes s.controller.store (e.op.run s.controller.store).1 with _ | notice
  · exact hcovers
  · obtain ⟨hmade, rfl⟩ := hnotice notice hsome
    have hsettles := hmade.settles_iff htype direction (.of stored.key t' kind')
    rw [Option.toList_some, List.countP_singleton]
    simp only at hcovers ⊢
    -- The new report counts under the one key in its own direction, and nowhere else.
    by_cases hkey : ExpectationKey.of stored.key t' kind' = .of stored.key t notice.sighting.kind
    · rw [if_pos hkey] at hcovers ⊢
      by_cases hway : direction = notice.sighting.way
      · rw [if_pos (hsettles.2 ⟨hway, hkey⟩), hway, Direction.once_self]
        rw [hway] at hcovers
        omega
      · rw [if_neg fun hboth => hway (hsettles.1 hboth).1, Direction.once_of_ne hway]
        omega
    · rw [if_neg hkey] at hcovers ⊢
      rw [if_neg fun hboth => hkey (hsettles.1 hboth).2]
      exact hcovers

end Scene

/-! ## Bringing a replica type in line -/

namespace Composition

open Scene

variable {now : Timestamp} {stored : Job} {t : String} {kind : Controllee} {index : Nat}
  {amount : Direction → Int} {spec : ReplicaSpec}

section Requests

variable (hslash : Slashless stored.name) (ht : t ∈ stored.replicaTypes) (htype : IsReplicaType t)
include hslash ht htype

/-- The deletion of a pod for restart. -/
theorem leads_deletePod {name : String} (hname : name = slotName stored.name t index) :
    Leads Drifts (Advancing now stored t .pods amount)
      (deletePod .restart stored.withDefaults (.of stored.key t .pods) name)
      (fun _ => Advancing now stored t .pods fun direction => amount direction - Direction.going.once direction)
      (fun _ => Advancing now stored t .pods amount) := by
  have herrand : Leads Drifts (Advancing now stored t .pods amount)
      (.errand (.deletePod .restart ⟨stored.withDefaults.ns, name⟩))
      (fun _ => Advancing now stored t .pods fun direction => amount direction - Direction.going.once direction)
      (fun _ => Advancing now stored t .pods amount) := by
    have hperform := fun (s : Scene) (hs : s.Advancing now stored t .pods amount) =>
      hs.perform (.deletePod .restart ⟨stored.withDefaults.ns, name⟩)
        (.of_effect (MemoryStore.effect_deletePod _ _) (MemoryStore.tidy_withoutPod _ _))
        ((MemoryStore.effect_deletePod _ _).jobs_eq rfl) ht htype fun notice hnotice => by
          -- What stands at the address of the slot was made for it.
          obtain ⟨pod, hpod, -, hsighting⟩ := Errand.of_deletePod hnotice
          rw [hname] at hpod
          rw [hsighting]
          exact ⟨⟨index, (hs.inOrder.pods _ _ hpod).madeFor hslash htype⟩, rfl⟩
    refine leads_errand (stable_advancing hslash) (fun s hs u hok => ?_) fun s hs e herror => ?_
    · have hdone := hperform s hs
      obtain ⟨pod, hnotice⟩ := Errand.notice?_deletePod hok
      rw [hok, hnotice] at hdone
      exact hdone
    · have hdone := hperform s hs
      rw [herror] at hdone
      exact hdone
  refine herrand.bind_attempt (fun _ => leads_tell (stable_advancing hslash) _) fun e => ?_
  refine .choose (fun _ => ?_) fun _ => ?_
  · -- A pod that is gone already counts as seen to go.
    exact leads_expecting (stable_advancing hslash) fun s hs => hs.lower (Direction.once_nonneg .going)
  · exact (leads_tell (stable_advancing hslash) _).bind fun _ =>
      leads_throw (stable_advancing hslash) e

/-- A creation is on its way when it is made or times out, and otherwise it has come to nothing. -/
theorem leads_creation {α : Type} {e : Errand α} {sighting : Sighting}
    (htidy : ∀ s : MemoryStore, s.Tidy (e.op.run s).2) (hjobs : ∀ s : MemoryStore, (e.op.run s).2.jobs = s.jobs)
    (hnotice : ∀ pass s answer, e.notice? pass s answer = Errand.creation? pass sighting answer)
    (hmade : sighting.MadeFor stored.address t) (hkind : sighting.kind = kind) (hway : sighting.way = .coming) :
    Leads Drifts (Advancing now stored t kind amount) (.errand e)
      (fun _ => Advancing now stored t kind fun direction => amount direction - Direction.coming.once direction)
      fun err => Advancing now stored t kind fun direction =>
        if err.isTimeout then amount direction - Direction.coming.once direction else amount direction := by
  have hperform := fun (s : Scene) (hs : s.Advancing now stored t kind amount) =>
    hs.perform e (htidy _) (hjobs _) ht htype fun notice h => by
      rw [hnotice] at h
      rw [(Errand.of_creation? h).2.2]
      exact ⟨hmade, hkind⟩
  simp only [hnotice] at hperform
  refine leads_errand (stable_advancing hslash) (fun s hs a hok => ?_) fun s hs err herror => ?_
  · have hdone := hperform s hs
    rw [hok] at hdone
    change Advancing now stored t kind (fun direction => amount direction - sighting.way.once direction) _ at hdone
    rwa [hway] at hdone
  · have hdone := hperform s hs
    rw [herror] at hdone
    unfold Errand.creation? at hdone
    -- A timeout may hide a creation that was made, so it is counted as one.
    by_cases htimeout : err.isTimeout = true
    · simp only [if_pos htimeout, hway] at hdone ⊢
      exact hdone
    · simp only [if_neg htimeout] at hdone ⊢
      exact hdone

omit ht htype in
/-- After a timeout the object stays expected, and one that is there already counts as seen. -/
theorem leads_creationRefused {warning : Event} (e : OperatorError) :
    Leads Drifts (Advancing now stored t kind fun direction =>
        if e.isTimeout then amount direction - Direction.coming.once direction else amount direction)
      (creationRefused (.of stored.key t kind) warning e)
      (fun _ => Advancing now stored t kind fun direction => amount direction - Direction.coming.once direction)
      (fun _ => Advancing now stored t kind amount) := by
  refine .choose (fun htimeout => ?_) fun htimeout => ?_
  · simp only [if_pos htimeout]
    exact leads_pure (stable_advancing hslash) ()
  · simp only [if_neg htimeout]
    refine .choose (fun _ => ?_) fun _ => ?_
    · exact leads_expecting (stable_advancing hslash) fun s hs => hs.lower (Direction.once_nonneg .coming)
    · exact (leads_tell (stable_advancing hslash) _).bind fun _ =>
        leads_throw (stable_advancing hslash) e

/-- The creation of the pod of a slot. -/
theorem leads_createPod {index : Nat} :
    Leads Drifts (Advancing now stored t .pods amount)
      (createPod stored.withDefaults (.of stored.key t .pods) t spec index)
      (fun _ => Advancing now stored t .pods fun direction => amount direction - Direction.coming.once direction)
      (fun _ => Advancing now stored t .pods amount) := by
  have hstable : Stable Drifts (Advancing now stored t .pods amount) := stable_advancing hslash
  refine (leads_look hstable).bind fun c => (leads_settle hstable _).bind fun template => .of_and fun _ =>
    (leads_tellAll hstable _).bind fun _ => (leads_settle hstable _).bind fun owner => .of_and fun howner => ?_
  have hmade := Job.madeFor_podFor howner c.config t index spec.restart template
  have hcreation : Leads Drifts (Advancing now stored t .pods amount)
      (.errand (.createPod stored.ns
        (stored.withDefaults.podFor c.config t index spec.restart template owner))) _ _ :=
    leads_creation hslash ht htype (fun s => .of_effect (MemoryStore.effect_createPod _ _ s)
      (MemoryStore.tidy_withPod (a := stored.address) hslash htype hmade))
    (fun s => (MemoryStore.effect_createPod _ _ s).jobs_eq rfl) (fun _ _ _ => rfl) ⟨index, hmade⟩ rfl rfl
  exact hcreation.bind_attempt (fun _ => leads_tell (stable_advancing hslash) _) fun e =>
    leads_creationRefused hslash e

/-- The creation of the service of a slot. -/
theorem leads_createService {index : Nat} :
    Leads Drifts (Advancing now stored t .services amount)
      (createService stored.withDefaults (.of stored.key t .services) t spec index)
      (fun _ => Advancing now stored t .services fun direction => amount direction - Direction.coming.once direction)
      (fun _ => Advancing now stored t .services amount) := by
  have hstable : Stable Drifts (Advancing now stored t .services amount) := stable_advancing hslash
  refine (leads_settle hstable _).bind fun port => .of_and fun _ => (leads_settle hstable _).bind fun owner =>
    .of_and fun howner => ?_
  have hmade := Job.madeFor_serviceFor howner t index port
  have hcreation : Leads Drifts (Advancing now stored t .services amount)
      (.errand (.createService stored.ns (stored.withDefaults.serviceFor t index port owner))) _ _ :=
    leads_creation hslash ht htype (fun s => .of_effect (MemoryStore.effect_createService _ _ s)
      (MemoryStore.tidy_withService (a := stored.address) hslash htype hmade))
    (fun s => (MemoryStore.effect_createService _ _ s).jobs_eq rfl) (fun _ _ _ => rfl) ⟨index, hmade⟩ rfl rfl
  exact hcreation.bind_attempt (fun _ => leads_tell (stable_advancing hslash) _) fun e =>
    leads_creationRefused hslash e

end Requests

end Composition

/-! ## Plans -/

/-- Which way the pod goes that a request is about. -/
def PodRequest.way : PodRequest → Direction
  | .replace _ => .going
  | .create _ => .coming

/-- So many reports each way. -/
def Direction.reports (coming going : Int) : Direction → Int
  | .coming => coming
  | .going => going

/-- A list of requests leads to one more report than those after the first. -/
theorem PodRequest.reports_cons (r : PodRequest) (rest : List PodRequest) (direction : Direction) :
    Direction.reports (creations (r :: rest)) (deletions (r :: rest)) direction - r.way.once direction =
      Direction.reports (creations rest) (deletions rest) direction := by
  unfold creations deletions
  rw [List.countP_cons, List.countP_cons]
  cases r <;> cases direction <;> simp [Direction.reports, Direction.once, way]

/-- A plan announces what it asks for. -/
theorem PodPlan.announced (plan : PodPlan) :
    creations plan.requests = plan.missing.length ∧ deletions plan.requests = plan.restarts.length := by
  unfold requests creations deletions
  rw [List.countP_append, List.countP_append, List.countP_map, List.countP_map, List.countP_map, List.countP_map]
  simp [Function.comp_def]

namespace Job

/-- The pods were made for slots of the job. -/
def Made (job : Job) (pods : List Pod) : Prop :=
  ∀ pod ∈ pods, ∃ replicaType index, IsReplicaType replicaType ∧
    pod.metadata.MadeFor job.ns job.name replicaType index

/-- What a plan for a replica type has replaced are pods of slots of that type. -/
theorem Made.slot_of_mem_restarts {job : Job} {pods : List Pod} (h : job.Made pods) {t : String}
    (htype : IsReplicaType t) {spec : ReplicaSpec} {name : String}
    (hname : name ∈ (podPlan t spec pods).restarts) : ∃ index, name = slotName job.name t index := by
  obtain ⟨pod, hpod, rfl, -⟩ := exists_of_mem_restarts hname
  obtain ⟨hlisted, hlabel⟩ := List.mem_filter.1 hpod
  obtain ⟨replicaType, index, htype', hmade⟩ := h pod hlisted
  have hlower : Text.lowercase replicaType = Text.lowercase t :=
    Option.some.inj (hmade.label_replicaType.symm.trans (beq_iff_eq.1 hlabel))
  exact ⟨index, lowercase_inj htype' htype hlower ▸ hmade.name⟩

end Job

namespace Scene

variable {s : Scene} {now : Timestamp} {stored : Job} {t : String} {kind : Controllee} {coming going : Int}

/-- Where nothing is left to come, the books are level. -/
theorem Advancing.level (h : s.Advancing now stored t kind (Direction.reports 0 0)) : s.Level now stored := by
  have hnone : Direction.reports 0 0 = fun _ => 0 := by
    funext direction
    cases direction <;> rfl
  exact level_iff.2 (hnone ▸ h)

/-- When everything still to be asked for is taken out of the record, there is nothing more to be asked for. -/
theorem Advancing.abandon (h : s.Advancing now stored t kind (Direction.reports coming going))
    (hcoming : 0 ≤ coming) (hgoing : 0 ≤ going) :
    (s.withController (expected (fun x => x.lower (.of stored.key t kind) coming going) s.controller)).Level
      now stored := by
  have hnonneg : ∀ direction, 0 ≤ Direction.reports coming going direction := by
    intro direction
    cases direction
    · exact hcoming
    · exact hgoing
  have hlowered := h.lower hnonneg
  simp only [Int.sub_self] at hlowered
  exact level_iff.2 hlowered

/-- Where a record holds nothing up, nothing is on its way that is counted under its key. -/
theorem Level.idle (h : s.Level now stored) (ht : t ∈ stored.replicaTypes)
    (hsatisfied : s.controller.expectations.satisfied (.of stored.key t kind) now = true) :
    ∀ direction, s.underway (.of stored.key t kind) direction = 0 := by
  intro direction
  have hcovers := h.covers t ht kind direction
  have howed := Expectations.owed_le_zero hsatisfied h.punctual direction
  simp only [ite_self] at hcovers
  omega

end Scene

namespace Composition

open Scene

variable {now : Timestamp} {stored : Job} {t : String} {kind : Controllee} {spec : ReplicaSpec}

section Plans

variable (hslash : Slashless stored.name) (ht : t ∈ stored.replicaTypes) (htype : IsReplicaType t)
include hslash ht htype

/-- The requests of a plan, made one after the other, leave nothing behind that the record does not cover. -/
theorem leads_performPodRequests {requests : List PodRequest}
    (hnames : ∀ name, .replace name ∈ requests → ∃ index, name = slotName stored.name t index) :
    Leads Drifts (Advancing now stored t .pods (Direction.reports (creations requests) (deletions requests)))
      (performPodRequests stored.withDefaults (.of stored.key t .pods) t spec requests)
      (fun _ => Level now stored) (fun _ => Level now stored) := by
  -- Over the requests still to make: their number is what the expectation still announces.
  induction requests with
  | nil =>
    exact (leads_pure (stable_advancing hslash) ()).mono (fun _ => id) (fun _ _ => Advancing.level) fun _ _ => id
  | cons r rest ih =>
    have hrequest : Leads Drifts
        (Advancing now stored t .pods (Direction.reports (creations (r :: rest)) (deletions (r :: rest))))
        (performPodRequest stored.withDefaults (.of stored.key t .pods) t spec r)
        (fun _ => Advancing now stored t .pods (Direction.reports (creations rest) (deletions rest)))
        (fun _ => Advancing now stored t .pods
          (Direction.reports (creations (r :: rest)) (deletions (r :: rest)))) := by
      simp only [← funext (PodRequest.reports_cons r rest)]
      cases r with
      | replace name =>
        obtain ⟨index, hname⟩ := hnames name List.mem_cons_self
        exact leads_deletePod hslash ht htype hname
      | create index => exact leads_createPod hslash ht htype
    have hrest := ih fun name hname => hnames name (List.mem_cons_of_mem _ hname)
    refine hrequest.bind_attempt (fun _ => hrest) fun e => ?_
    -- A refused request lowers the record by all that will no longer be asked for.
    refine (leads_expecting (stable_advancing hslash) fun s hs => hs.abandon ?_ ?_).bind fun _ => ?_
    · exact Int.natCast_nonneg _
    · exact Int.natCast_nonneg _
    · exact leads_throw (stable_advancing hslash) e

/-- From expecting all missing services, making them leads back to level books, wherever it breaks off. -/
theorem leads_createServices {missing : List Nat} :
    Leads Drifts (Advancing now stored t .services (Direction.reports missing.length 0))
      (createServices stored.withDefaults (.of stored.key t .services) t spec missing)
      (fun _ => Level now stored) (fun _ => Level now stored) := by
  -- As for the pods, over the services still to create.
  induction missing with
  | nil =>
    exact (leads_pure (stable_advancing hslash) ()).mono (fun _ => id) (fun _ _ => Advancing.level) fun _ _ => id
  | cons index rest ih =>
    have hrest : (Direction.reports rest.length 0 : Direction → Int) = fun direction =>
        Direction.reports (index :: rest).length 0 direction - Direction.coming.once direction := by
      funext direction
      cases direction <;> simp [Direction.reports, Direction.once]
    rw [hrest] at ih
    refine (leads_createService hslash ht htype).bind_attempt (fun _ => ih) fun e => ?_
    refine (leads_expecting (stable_advancing hslash) fun s hs => hs.abandon ?_ ?_).bind fun _ => ?_
    · exact Int.natCast_nonneg _
    · exact Int.le_refl _
    · exact leads_throw (stable_advancing hslash) e

omit htype in
/-- Something is announced only under a key that holds nothing up, so the record that is replaced had nothing to
cover. -/
theorem leads_announce {c : Controller MemoryStore} {coming going : Int}
    (hsatisfied : c.expectations.satisfied (.of stored.key t kind) now = true) :
    Leads Drifts (fun s => s.Level now stored ∧ c = s.controller)
      (expecting fun x => x.set (.of stored.key t kind) coming going now)
      (fun _ => Advancing now stored t kind (Direction.reports coming going)) fun _ => Level now stored := by
  have hidle : Lasting stored.address stored.replicaTypes fun s => s.Level now stored ∧
      ∀ direction, s.underway (.of stored.key t kind) direction = 0 := by
    refine ⟨fun s hs => hs.1.inOrder, fun s s' ⟨hlevel, hidle⟩ hfollows => ⟨hlevel.of_follows hfollows, ?_⟩⟩
    exact fun direction =>
      Nat.eq_zero_of_le_zero (Nat.le_trans (hfollows.underway _ _) (Nat.le_of_eq (hidle direction)))
  have hannounced : Leads Drifts _ (expecting fun x => x.set (.of stored.key t kind) coming going now)
      (fun _ => Advancing now stored t kind (Direction.reports coming going)) fun _ => Level now stored :=
    leads_expecting (hidle.stable hslash) fun s hs => hs.1.announce hs.2 (Direction.reports coming going)
  exact hannounced.mono (fun s hs => ⟨hs.1, hs.1.idle ht (hs.2 ▸ hsatisfied)⟩) (fun _ _ => id) fun _ _ => id

/-- Carrying out a plan starts and ends with level books. -/
theorem leads_carryOut {plan : PodPlan}
    (hnames : ∀ name ∈ plan.restarts, ∃ index, name = slotName stored.name t index) :
    Leads Drifts (Level now stored) (carryOut now stored.withDefaults t spec plan)
      (fun _ => Level now stored) (fun _ => Level now stored) := by
  have hlevel : Stable Drifts (Level now stored) := stable_advancing hslash
  refine .choose (fun _ => leads_pure hlevel 0) fun _ => (leads_get hlevel).bind fun c =>
    .choose (fun _ => ?_) fun hopen => ?_
  · exact (leads_pure hlevel 0).mono (fun _ => And.left) (fun _ _ => id) fun _ _ => id
  · -- Past this gate nothing is owed, so the announcement starts from a level book.
    have hsatisfied : c.expectations.satisfied (.of stored.key t .pods) now = true :=
      (Bool.not_eq_false _).mp fun hsatisfied => hopen (congrArg Bool.not hsatisfied)
    have hrequests : Leads Drifts
        (Advancing now stored t .pods (Direction.reports plan.missing.length plan.restarts.length))
        (performPodRequests stored.withDefaults (.of stored.key t .pods) t spec plan.requests)
        (fun _ => Level now stored) (fun _ => Level now stored) := by
      rw [← plan.announced.1, ← plan.announced.2]
      refine leads_performPodRequests hslash ht htype fun name hname => hnames name ?_
      simpa [PodPlan.requests] using hname
    exact (leads_announce hslash ht hsatisfied).bind fun _ => hrequests.bind fun _ =>
      leads_pure hlevel _

/-- And so does bringing services in line. -/
theorem leads_reconcileServices {services : List Service} :
    Leads Drifts (Level now stored) (reconcileServices now stored.withDefaults t spec services)
      (fun _ => Level now stored) (fun _ => Level now stored) := by
  have hlevel : Stable Drifts (Level now stored) := stable_advancing hslash
  refine .choose (fun _ => leads_pure hlevel ()) fun _ => (leads_get hlevel).bind fun c =>
    .choose (fun _ => ?_) fun hopen => ?_
  · exact (leads_pure hlevel ()).mono (fun _ => And.left) (fun _ _ => id) fun _ _ => id
  · have hsatisfied : c.expectations.satisfied (.of stored.key t .services) now = true :=
      (Bool.not_eq_false _).mp fun hsatisfied => hopen (congrArg Bool.not hsatisfied)
    exact (leads_announce hslash ht hsatisfied).bind fun _ => leads_createServices hslash ht htype

end Plans

/-- Bringing all replica types in line, one after the other, leaves nothing behind that is not covered. -/
theorem leads_reconcileReplicas (hslash : Slashless stored.name) {pods : List Pod} (hpods : stored.Made pods)
    (services : List Service) (entries : List (String × ReplicaSpec)) (status : JobStatus)
    (htypes : ∀ e ∈ entries, e.1 ∈ stored.replicaTypes ∧ IsReplicaType e.1) :
    Leads Drifts (Level now stored) (reconcileReplicas now stored.withDefaults pods services entries status)
      (fun _ => Level now stored) (fun _ => Level now stored) := by
  have hlevel : Stable Drifts (Level now stored) := stable_advancing hslash
  -- Each replica type starts and ends level, whatever status the types before it left.
  induction entries generalizing status with
  | nil => exact leads_pure hlevel _
  | cons e rest ih =>
    obtain ⟨⟨ht, htype⟩, hrest⟩ := List.forall_mem_cons.1 htypes
    have hreconcile : Leads Drifts (Level now stored) (reconcilePods now stored.withDefaults e.1 e.2 pods)
        (fun _ => Level now stored) (fun _ => Level now stored) :=
      (leads_tellAll hlevel _).bind fun _ => leads_carryOut hslash ht htype fun name hname =>
        hpods.slot_of_mem_restarts htype hname
    exact hreconcile.bind fun _ => (leads_reconcileServices hslash ht htype).bind fun _ =>
      (ih _ hrest).bind fun _ => leads_pure hlevel _

end Composition

end TrainingJobs
