/-
A pass with the world in between.

The watch does not wait for a pass to end: what a pass asks for may be reported while the pass still runs, even
before it has its answer, and pods change their phase at any time. A `Composition` tells of a step how it is put
together of parts that nothing interrupts: what the controller does with its own state, and single requests to
the store. `Composition.Ends` are the ways in which the step can end when anything that others do (`moves`) may
happen before each of its parts; with nobody else there it ends as the step itself does (`run_alone`).

To say what a pass does while a creation or deletion has not been reported yet, a `Scene` keeps book: what was
done to pods and services and is yet to be reported, and what was asked of the store.
-/
import TrainingJobs.Proofs.RestartBudget

set_option autoImplicit false

namespace TrainingJobs

/-! ## What is asked for, and what comes of it -/

/-- What a change of the pods and services is for. -/
inductive Purpose where
  | creation
  /-- A pod is deleted, to be replaced. -/
  | restart
  /-- The job is at its end. -/
  | cleanUp
  deriving DecidableEq, Repr

/-- A request to the store, with the purpose for which something is deleted. -/
inductive Errand : Type → Type 1 where
  | createPod (ns : String) (pod : Pod) : Errand Pod
  | createService (ns : String) (service : Service) : Errand Service
  | deletePod (purpose : Purpose) (x : Address) : Errand Unit
  | deleteService (x : Address) : Errand Unit
  /-- A request that leaves all pods and services alone. -/
  | other {α : Type} (op : StoreM MemoryStore α)
      (h : ∀ s : MemoryStore, s.SameObjects (op.run s).2) : Errand α

/-- A change of the pods and services that was asked for in some pass, as it will be reported. -/
structure Notice where
  pass : Nat
  purpose : Purpose
  sighting : Sighting
  /-- Whether it has happened. A creation that timed out may happen later, or never. -/
  happened : Bool

/-- A request for a change, and whether it was made while something was outstanding from an earlier pass. -/
structure Plea where
  purpose : Purpose
  early : Bool
  deriving DecidableEq, Repr

namespace Errand

variable {α : Type}

def op : Errand α → StoreM MemoryStore α
  | createPod ns pod => ObjectStore.createPod ns pod
  | createService ns service => ObjectStore.createService ns service
  | deletePod _ x => ObjectStore.deletePod x
  | deleteService x => ObjectStore.deleteService x
  | other op _ => op

/-- For what it changes the pods or services, if it does. -/
def purpose? : Errand α → Option Purpose
  | createPod _ _ | createService _ _ => some .creation
  | deletePod purpose _ => some purpose
  | deleteService _ => some .cleanUp
  | other _ _ => none

/-- What a creation leads to: it has happened, or after a timeout it may still happen. -/
def creation? (pass : Nat) (sighting : Sighting) : Except OperatorError α → Option Notice
  | .ok _ => some ⟨pass, .creation, sighting, true⟩
  | .error e => if e.isTimeout then some ⟨pass, .creation, sighting, false⟩ else none

/-- What a deletion leads to: what was there is gone. -/
def deletion? (pass : Nat) (purpose : Purpose) (gone : Option Sighting) : Except OperatorError α → Option Notice
  | .ok _ => gone.map fun sighting => ⟨pass, purpose, sighting, true⟩
  | .error _ => none

/-- What is to be reported of it when it is run on a store in some pass and answered so. -/
def notice? (pass : Nat) (s : MemoryStore) : Errand α → Except OperatorError α → Option Notice
  | createPod _ pod, answer => creation? pass (.podAdded pod) answer
  | createService _ service, answer => creation? pass (.serviceAdded service) answer
  | deletePod purpose x, answer => deletion? pass purpose ((s.pods.get? x).map .podDeleted) answer
  | deleteService x, answer => deletion? pass .cleanUp ((s.services.get? x).map .serviceDeleted) answer
  | other _ _, _ => none

end Errand

/-- A controller among others, and the books on what it asks for. -/
structure Scene where
  controller : Controller MemoryStore
  /-- How many passes have begun. -/
  passes : Nat := 0
  /-- What was changed or may be, and has not been reported yet. -/
  unreported : List Notice := []
  pleas : List Plea := []

namespace Scene

variable {α : Type}

/-- Whether a creation or a deletion for restart that an earlier pass asked for is yet to be reported. -/
def awaits (s : Scene) : Bool :=
  s.unreported.any fun notice => decide (notice.pass < s.passes) && notice.purpose != .cleanUp

def withController (s : Scene) (c : Controller MemoryStore) : Scene := { s with controller := c }

def withStore (s : Scene) (store : MemoryStore) : Scene :=
  s.withController { s.controller with store := store }

/-- The books, after an errand that was answered so. -/
def noted (s : Scene) (e : Errand α) (answer : Except OperatorError α) : Scene := { s with
  unreported := s.unreported ++ (e.notice? s.passes s.controller.store answer).toList
  pleas := s.pleas ++ e.purpose?.toList.map fun purpose => ⟨purpose, s.awaits⟩ }

/-- Runs an errand. -/
def perform (s : Scene) (e : Errand α) : Except OperatorError α × Scene :=
  let (answer, store) := e.op.run s.controller.store
  (answer, (s.noted e answer).withStore store)

end Scene

open Controller

variable {α β : Type}

/-- How a step is put together of parts that nothing interrupts. -/
inductive Composition : {α : Type} → ControllerM MemoryStore α → Type 1 where
  /-- A step that does not ask the store for anything. -/
  | own {α : Type} (step : ControllerM MemoryStore α) (h : ∀ c, (step.run c).2.store = c.store) :
    Composition step
  | errand {α : Type} (e : Errand α) : Composition (request e.op)
  | attempt {α : Type} {step : ControllerM MemoryStore α} (m : Composition step) :
    Composition (Controller.attempt step)
  | bind {α β : Type} {step : ControllerM MemoryStore α} {next : α → ControllerM MemoryStore β}
      (m : Composition step) (n : ∀ a, Composition (next a)) : Composition (step >>= next)
  | choose {α : Type} (p : Prop) [Decidable p] {step step' : ControllerM MemoryStore α}
      (m : Composition step) (m' : Composition step') : Composition (if p then step else step')

namespace Composition

variable {step : ControllerM MemoryStore α}

/-- The ways to end from a scene, when any of the moves may be made before each part. -/
def Ends (moves : Scene → Scene → Prop) :
    {α : Type} → {step : ControllerM MemoryStore α} → Composition step → Scene →
      Except OperatorError α × Scene → Prop
  | _, _, own step _, s, r =>
    ∃ s₁, moves s s₁ ∧ r = ((step.run s₁.controller).1, s₁.withController (step.run s₁.controller).2)
  | _, _, errand e, s, r => ∃ s₁, moves s s₁ ∧ r = s₁.perform e
  | _, _, attempt m, s, r => ∃ r', m.Ends moves s r' ∧ r = (.ok r'.1, r'.2)
  | _, _, bind m n, s, r =>
    ∃ r', m.Ends moves s r' ∧
      match r' with
      | (.ok a, s') => (n a).Ends moves s' r
      | (.error e, s') => r = (.error e, s')
  | _, _, choose p m m', s, r => if p then m.Ends moves s r else m'.Ends moves s r

/-- The end when nothing happens in between. -/
def alone : {α : Type} → {step : ControllerM MemoryStore α} → Composition step → Scene →
    Except OperatorError α × Scene
  | _, _, own step _, s => ((step.run s.controller).1, s.withController (step.run s.controller).2)
  | _, _, errand e, s => s.perform e
  | _, _, attempt m, s => (.ok (m.alone s).1, (m.alone s).2)
  | _, _, bind m n, s =>
    match m.alone s with
    | (.ok a, s') => (n a).alone s'
    | (.error e, s') => (.error e, s')
  | _, _, choose p m m', s => if p then m.alone s else m'.alone s

/-- With nobody else there the step ends as it would on its own. -/
theorem run_alone {α : Type} {step : ControllerM MemoryStore α} (m : Composition step) (s : Scene) :
    ((m.alone s).1, (m.alone s).2.controller) = step.run s.controller := by
  -- Over the composition; `bind` is the case that needs the scene left free.
  induction m generalizing s with
  | own step h => rfl
  | errand e => rfl
  | attempt m ih =>
    have hrun := ih s
    change ((.ok (m.alone s).1 : Except OperatorError _), (m.alone s).2.controller) = (.ok _, _)
    rw [Prod.ext_iff] at hrun ⊢
    exact ⟨congrArg Except.ok hrun.1, hrun.2⟩
  | bind m n ih ihn =>
    have hrun := ih s
    rw [alone]
    rcases hm : m.alone s with ⟨e | a, s'⟩
    · rw [hm] at hrun
      exact (run_bind_error _ hrun.symm).symm
    · rw [hm] at hrun
      rw [run_bind_ok _ hrun.symm]
      exact ihn a s'
  | choose p m m' ih ih' =>
    rw [alone]
    split
    · exact ih s
    · exact ih' s

/-- Where nothing has to happen, the step can end as it does with nobody else there. -/
theorem ends_alone {moves : Scene → Scene → Prop} (hrefl : ∀ s, moves s s) {α : Type}
    {step : ControllerM MemoryStore α} (m : Composition step) (s : Scene) : m.Ends moves s (m.alone s) := by
  -- Nothing happening is one of the ways it can go: every gap is filled with `hrefl`.
  induction m generalizing s with
  | own step h => exact ⟨s, hrefl s, rfl⟩
  | errand e => exact ⟨s, hrefl s, rfl⟩
  | attempt m ih => exact ⟨m.alone s, ih s, rfl⟩
  | bind m n ih ihn =>
    rw [Ends, alone]
    refine ⟨m.alone s, ih s, ?_⟩
    rcases m.alone s with ⟨e | a, s'⟩
    · rfl
    · exact ihn a s'
  | choose p m m' ih ih' =>
    rw [Ends, alone]
    split
    · exact ih s
    · exact ih' s

/-! ## Reasoning about a step that is interrupted -/

/-- From every scene with `P` the step ends in one of the two ways, whatever moves are made in between. -/
def Leads (moves : Scene → Scene → Prop) (P : Scene → Prop) (m : Composition step)
    (done : α → Scene → Prop) (failed : OperatorError → Scene → Prop) : Prop :=
  ∀ s, P s → ∀ r, m.Ends moves s r →
    match r with
    | (.ok a, s') => done a s'
    | (.error e, s') => failed e s'

end Composition

/-- No move of the others breaks it. -/
def Stable (moves : Scene → Scene → Prop) (P : Scene → Prop) : Prop := ∀ s s', P s → moves s s' → P s'

namespace Composition

variable {moves : Scene → Scene → Prop} {P : Scene → Prop} {step : ControllerM MemoryStore α}
  {done : α → Scene → Prop} {failed : OperatorError → Scene → Prop}

/-- A step leads from less to more. -/
theorem Leads.mono {m : Composition step} {P' : Scene → Prop} {done' : α → Scene → Prop}
    {failed' : OperatorError → Scene → Prop} (h : Leads moves P m done failed) (hP : ∀ s, P' s → P s)
    (hdone : ∀ a s, done a s → done' a s) (hfailed : ∀ e s, failed e s → failed' e s) :
    Leads moves P' m done' failed' := by
  intro s hs r hr
  have hend := h s (hP s hs) r hr
  rcases r with ⟨e | a, s'⟩
  · exact hfailed e s' hend
  · exact hdone a s' hend

/-- What is known beside the scene can be used for the whole step. -/
theorem Leads.of_and {m : Composition step} {q : Prop} (h : q → Leads moves P m done failed) :
    Leads moves (fun s => P s ∧ q) m done failed := fun s hs => h hs.2 s hs.1

/-- A part that asks for nothing ends as it does on its own, after the moves. -/
theorem leads_own {h : ∀ c, (step.run c).2.store = c.store} (hP : Stable moves P)
    (hstep : ∀ s, P s → Yields step s.controller (fun a c => done a (s.withController c))
      fun e c => failed e (s.withController c)) : Leads moves P (.own step h) done failed := by
  intro s hs r hr
  obtain ⟨s₁, hmoves, rfl⟩ := hr
  have hend := hstep s₁ (hP s s₁ hs hmoves)
  unfold Yields at hend
  rcases hrun : step.run s₁.controller with ⟨e | a, c⟩
  all_goals
    rw [hrun] at hend
    exact hend

/-- A request leads to what its answers lead to, from a state that stays as it is until the request is made. -/
theorem leads_errand {e : Errand α} (hP : Stable moves P)
    (hok : ∀ s, P s → ∀ a, (e.op.run s.controller.store).1 = .ok a → done a (s.perform e).2)
    (herror : ∀ s, P s → ∀ err, (e.op.run s.controller.store).1 = .error err → failed err (s.perform e).2) :
    Leads moves P (.errand e) done failed := by
  intro s hs r hr
  obtain ⟨s₁, hmoves, rfl⟩ := hr
  have hanswer : (s₁.perform e).1 = (e.op.run s₁.controller.store).1 := rfl
  rcases hend : s₁.perform e with ⟨err | a, s'⟩
  all_goals rw [hend] at hanswer
  · have hdone := herror s₁ (hP s s₁ hs hmoves) err hanswer.symm
    rwa [hend] at hdone
  · have hdone := hok s₁ (hP s s₁ hs hmoves) a hanswer.symm
    rwa [hend] at hdone

/-- An attempt leads to its failures as to results. -/
theorem Leads.attempt {m : Composition step} {done : Except OperatorError α → Scene → Prop}
    (h : Leads moves P m (fun a => done (.ok a)) fun e => done (.error e)) :
    Leads moves P (.attempt m) done failed := by
  intro s hs r hr
  obtain ⟨⟨e | a, s'⟩, hend, rfl⟩ := hr
  all_goals exact h s hs _ hend

/-- What the first step leads to is where the next one starts. -/
theorem Leads.bind {next : α → ControllerM MemoryStore β} {m : Composition step}
    {n : ∀ a, Composition (next a)} {done : β → Scene → Prop} {between : α → Scene → Prop}
    (h : Leads moves P m between failed) (hn : ∀ a, Leads moves (between a) (n a) done failed) :
    Leads moves P (.bind m n) done failed := by
  intro s hs r hr
  rw [Ends] at hr
  obtain ⟨⟨e | a, s'⟩, hend, hrest⟩ := hr
  · subst hrest
    exact h s hs _ hend
  · exact hn a s' (h s hs _ hend) r hrest

/-- A step that may be refused is followed by what fits the answer. -/
theorem Leads.bind_attempt {next : Except OperatorError α → ControllerM MemoryStore β} {m : Composition step}
    {n : ∀ answer, Composition (next answer)} {done : β → Scene → Prop} {made : α → Scene → Prop}
    {refused : OperatorError → Scene → Prop} (h : Leads moves P m made refused)
    (hmade : ∀ a, Leads moves (made a) (n (.ok a)) done failed)
    (hrefused : ∀ e, Leads moves (refused e) (n (.error e)) done failed) :
    Leads moves P (.bind (.attempt m) n) done failed := by
  have hattempt : Leads moves P (.attempt m) (fun answer s =>
      match answer with
      | .ok a => made a s
      | .error e => refused e s) failed := .attempt h
  refine hattempt.bind fun answer => ?_
  cases answer with
  | ok a => exact hmade a
  | error e => exact hrefused e

/-- A choice leads to what the chosen step does. -/
theorem Leads.choose {p : Prop} [Decidable p] {step' : ControllerM MemoryStore α} {m : Composition step}
    {m' : Composition step'} (h : p → Leads moves P m done failed) (h' : ¬ p → Leads moves P m' done failed) :
    Leads moves P (.choose p m m') done failed := by
  intro s hs r hr
  rw [Ends] at hr
  split at hr
  · next hp => exact h hp s hs r hr
  · next hp => exact h' hp s hs r hr

end Composition

end TrainingJobs
