/-
Any store, overheard.

What is asked of a store, and what becomes of it, is what a statement about requests is about; a store itself
need not remember either. A `Traced` store answers as the store inside it does and notes every call with the
error that it ended in, if it did, whether a server refused the call, a script did, or the objects themselves
were in the way. So a statement about a traced store, for any store inside, is one about every way in which
calls can end.

A list of requests that are made in turn until one fails leaves such a trace (`Ran`): a failure that does not
matter to the controller is passed over (`StoreCall.tolerates`), and the first other one is the last of the
trace.
-/
import TrainingJobs.Proofs.Calls

set_option autoImplicit false

namespace TrainingJobs

/-! ## Traced stores -/

/-- A store, with the calls that were made to it. -/
structure Traced (σ : Type) where
  store : σ
  /-- The calls so far, each with the error that it ended in, if it did. -/
  trace : List (StoreCall × Option OperatorError) := []

namespace Traced

variable {σ : Type} [ObjectStore σ]

/-- The error that an answer is, if it is one. -/
def failure? {α : Type} : Except OperatorError α → Option OperatorError
  | .ok _ => none
  | .error e => some e

/-- Has the store inside answer a call, and notes how it ended. -/
def perform (call : StoreCall) : StoreM (Traced σ) call.Answer := fun s =>
  let (answer, store) := (call.op : StoreM σ call.Answer).run s.store
  (answer, ⟨store, s.trace ++ [(call, failure? answer)]⟩)

instance : ObjectStore (Traced σ) where
  getJob a := perform (.getJob a)
  updateJobStatus job status := perform (.updateJobStatus job status)
  deleteJob a := perform (.deleteJob a)
  listPods ns selector := perform (.listPods ns selector)
  createPod ns pod := perform (.createPod ns pod)
  deletePod a := perform (.deletePod a)
  listServices ns selector := perform (.listServices ns selector)
  createService ns service := perform (.createService ns service)
  deleteService a := perform (.deleteService a)
  getPodGroup a := perform (.getPodGroup a)
  createPodGroup ns group := perform (.createPodGroup ns group)
  deletePodGroup a := perform (.deletePodGroup a)

/-- A traced store makes every call in the one way. -/
theorem op_eq_perform (call : StoreCall) : (call.op : StoreM (Traced σ) call.Answer) = perform call := by
  cases call <;> rfl

end Traced

namespace Controller

open Traced

variable {σ : Type} [ObjectStore σ]

/-- Between the two, one call was made and ended with this error, if with any. -/
structure Called (call : StoreCall) (failure : Option OperatorError) (c c' : Controller (Traced σ)) : Prop where
  trace : c'.store.trace = c.store.trace ++ [(call, failure)]
  config : c'.config = c.config
  expectations : c'.expectations = c.expectations

/-- A request for a call is that call, with what it ended in. -/
theorem called_requested (call : StoreCall) (c : Controller (Traced σ)) :
    ∃ failure, Called call failure c (requested (call.op : StoreM (Traced σ) call.Answer) c) := by
  rw [op_eq_perform]
  exact ⟨_, rfl, rfl, rfl⟩

/-- A call is answered and noted without an error, or ends with the error that is noted. -/
theorem yields_request_traced (call : StoreCall) (c : Controller (Traced σ)) :
    Yields (request (perform call)) c (fun _ c' => Called call none c c')
      fun e c' => Called call (some e) c c' := by
  have hrun : (perform call).run c.store =
      (((call.op : StoreM σ call.Answer).run c.store.store).1,
        ⟨((call.op : StoreM σ call.Answer).run c.store.store).2,
          c.store.trace ++ [(call, failure? ((call.op : StoreM σ call.Answer).run c.store.store).1)]⟩) := rfl
  rw [yields_request, hrun]
  rcases (call.op : StoreM σ call.Answer).run c.store.store with ⟨e | answer, store⟩ <;> exact ⟨rfl, rfl, rfl⟩

end Controller

/-! ## Requests in turn -/

namespace StoreCall

/-- The call is to take an object away. -/
def deletes : StoreCall → Bool
  | deleteJob _ | deletePod _ | deleteService _ | deletePodGroup _ => true
  | _ => false

/-- The error is no failure of the call: what is to be created may be there already or still appear, and what is
to be deleted is gone. -/
def tolerates (call : StoreCall) (e : OperatorError) : Bool :=
  call.creates && (e.isTimeout || e.isConflict) || call.deletes && e.isNotFound

/-- It ended well, or with an error that does not matter. -/
def Passed (x : StoreCall × Option OperatorError) : Prop := ∀ e, x.2 = some e → x.1.tolerates e = true

end StoreCall

section Ran

variable {ρ : Type}

/-- What making requests in turn leaves behind: a trace, and the error of the first that failed, if one did.
Each request is one call, if it gets that far. -/
inductive Ran (call? : ρ → Option StoreCall) :
    List ρ → List (StoreCall × Option OperatorError) → Option OperatorError → Prop
  | done : Ran call? [] [] none
  | passed {r : ρ} {rest : List ρ} {call : StoreCall} {failure : Option OperatorError}
      {made : List (StoreCall × Option OperatorError)} {result : Option OperatorError} (hcall : call? r = some call)
      (hpassed : StoreCall.Passed (call, failure)) (hrest : Ran call? rest made result) :
      Ran call? (r :: rest) ((call, failure) :: made) result
  | failed {r : ρ} {rest : List ρ} {call : StoreCall} {e : OperatorError} (hcall : call? r = some call)
      (hfailed : call.tolerates e = false) : Ran call? (r :: rest) [(call, some e)] (some e)
  /-- There was nothing to call for. -/
  | unmade {r : ρ} {rest : List ρ} {e : OperatorError} (hcall : call? r = none) :
      Ran call? (r :: rest) [] (some e)

variable {call? : ρ → Option StoreCall} {requests : List ρ} {made : List (StoreCall × Option OperatorError)}
  {result : Option OperatorError}

/-- The calls are those that the requests stand for, as far as they got. -/
theorem Ran.isPrefix (h : Ran call? requests made result) :
    made.map Prod.fst <+: requests.filterMap call? := by
  induction h with
  | done => exact List.prefix_rfl
  | passed hcall _ _ ih =>
    rw [List.filterMap_cons_some hcall, List.map_cons]
    exact (List.prefix_cons_inj _).2 ih
  | failed hcall _ =>
    rw [List.filterMap_cons_some hcall]
    exact (List.prefix_cons_inj _).2 List.nil_prefix
  | unmade _ => exact List.nil_prefix

/-- Where nothing failed, all calls were made, and all passed. -/
theorem Ran.all_of_none (h : Ran call? requests made none) :
    made.map Prod.fst = requests.filterMap call? ∧ ∀ x ∈ made, StoreCall.Passed x := by
  generalize hresult : (none : Option OperatorError) = result at h
  induction h with
  | done => exact ⟨rfl, fun _ hx => absurd hx List.not_mem_nil⟩
  | passed hcall hpassed _ ih =>
    obtain ⟨hmade, hall⟩ := ih hresult
    rw [List.filterMap_cons_some hcall, List.map_cons, hmade]
    exact ⟨rfl, List.forall_mem_cons.2 ⟨hpassed, hall⟩⟩
  | failed => exact absurd hresult (by simp)
  | unmade => exact absurd hresult (by simp)

/-- Where a request failed, it is the last that was made, unless it could not be made at all. -/
theorem Ran.last_of_some {e : OperatorError} (h : Ran call? requests made (some e))
    (hcalls : ∀ r ∈ requests, (call? r).isSome = true) :
    ∃ before call, made = before ++ [(call, some e)] ∧ call.tolerates e = false ∧
      ∀ x ∈ before, StoreCall.Passed x := by
  -- The result is an index of `Ran`: it has to be a variable for the induction.
  generalize hresult : some e = result at h
  induction h with
  | done => exact absurd hresult (by simp)
  | passed _ hpassed _ ih =>
    obtain ⟨before, call, rfl, hfailed, hbefore⟩ := ih (fun r hr => hcalls r (List.mem_cons_of_mem _ hr)) hresult
    exact ⟨_ :: before, call, rfl, hfailed, List.forall_mem_cons.2 ⟨hpassed, hbefore⟩⟩
  | @failed _ _ call _ _ hfailed =>
    obtain rfl := Option.some.inj hresult
    exact ⟨[], call, rfl, hfailed, fun _ hx => absurd hx List.not_mem_nil⟩
  | unmade hcall =>
    have hsome := hcalls _ List.mem_cons_self
    rw [hcall] at hsome
    exact Bool.noConfusion hsome

end Ran

end TrainingJobs
