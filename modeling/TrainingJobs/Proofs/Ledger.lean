/-
The books of what was asked for.

Before a controller asks for pods or services it writes down how many creations and deletions it is about to ask
for, and while the requests run it takes out of the record what will not be seen to happen: one creation or
deletion for a request whose effect is there already, and at a failure everything that was not asked for
(`Placed`, `Refused`). The two have to balance: however the requests end, what is left in the record is what the
watch is still to tell (`ledger_balances`). A unit too many and the job is held up until the record expires; a
unit too few and pods are asked for twice.
-/
import TrainingJobs.Proofs.Bookkeeping
import TrainingJobs.Proofs.Trace

set_option autoImplicit false

namespace TrainingJobs

/-! ## Lowering a record -/

namespace Expectations

variable {key : ExpectationKey} {adds dels adds' dels' : Int} {e e₁ e₂ : Expectations}

/-- A record that nothing was taken off is lowered by nothing. -/
theorem Lowered.refl (key : ExpectationKey) (e : Expectations) : e.Lowered key 0 0 e := by
  refine ⟨rfl, ?_, fun _ _ => rfl⟩
  simp only [Int.sub_zero]
  exact Option.map_id'.symm

/-- What is taken off a record in two steps adds up. -/
theorem Lowered.trans (h₁ : e.Lowered key adds dels e₁) (h₂ : e₁.Lowered key adds' dels' e₂) :
    e.Lowered key (adds + adds') (dels + dels') e₂ := by
  refine ⟨h₂.timeout.trans h₁.timeout, ?_, fun other hne => (h₂.elsewhere other hne).trans (h₁.elsewhere other hne)⟩
  rw [h₂.here, h₁.here, Option.map_map]
  simp only [Function.comp_def, Int.sub_sub]

/-- A record that was set is lowered from what it was set to. -/
theorem Lowered.of_set {now : Timestamp} {n m : Int} (h : (e.set key n m now).Lowered key adds dels e₁) :
    e₁.records.get? key = some ⟨n - adds, m - dels, now⟩ := by
  rw [h.here, set, Dict.get?_insert_self]
  rfl

/-- Other records are not touched, neither by setting one nor by lowering it. -/
theorem Lowered.elsewhere_of_set {now : Timestamp} {n m : Int} (h : (e.set key n m now).Lowered key adds dels e₁)
    {other : ExpectationKey} (hne : other ≠ key) : e₁.records.get? other = e.records.get? other := by
  rw [h.elsewhere other hne, set, Dict.get?_insert_ne _ _ hne]

end Expectations

/-! ## What the watch is still to tell -/

namespace StoreCall

/-- It is still to be seen that something was created: the call went through, or there was no answer in time. -/
def awaitsCreation (x : StoreCall × Option OperatorError) : Bool :=
  x.1.creates &&
    match x.2 with
    | none => true
    | some e => e.isTimeout

/-- It is still to be seen that something was deleted. -/
def awaitsDeletion (x : StoreCall × Option OperatorError) : Bool := x.1.deletes && x.2.isNone

/-- A failure leaves nothing to be seen. -/
theorem awaits_of_not_tolerates {call : StoreCall} {e : OperatorError} (h : call.tolerates e = false) :
    awaitsCreation (call, some e) = false ∧ awaitsDeletion (call, some e) = false := by
  unfold tolerates at h
  unfold awaitsCreation awaitsDeletion
  simp only [Bool.or_eq_false_iff, Bool.and_eq_false_iff] at h
  simp only [Bool.and_eq_false_iff, Option.isNone_some, or_true, and_true]
  exact h.1.imp_right And.left

end StoreCall

namespace Controller

open StoreCall

variable {σ : Type} [ObjectStore σ] {job : Job} {key : ExpectationKey} {replicaType : String} {spec : ReplicaSpec}
  {c : Controller (Traced σ)}

/-! ## One request -/

/-- A call has passed, and what will not be seen of it is not expected any more. -/
structure Placed (key : ExpectationKey) (call : StoreCall) (failure : Option OperatorError)
    (c c' : Controller (Traced σ)) : Prop where
  passed : Passed (call, failure)
  trace : c'.store.trace = c.store.trace ++ [(call, failure)]
  config : c'.config = c.config
  expectations : c.expectations.Lowered key
    (call.creates.toNat - (awaitsCreation (call, failure)).toNat : Int)
    (call.deletes.toNat - (awaitsDeletion (call, failure)).toNat : Int) c'.expectations

/-- A request has failed, with its call if there was one to make, and expectations are as they were. -/
structure Refused (call? : Option StoreCall) (e : OperatorError) (c c' : Controller (Traced σ)) : Prop where
  expectations : c'.expectations = c.expectations
  trace : match call? with
    | none => c'.store.trace = c.store.trace
    | some call => c'.store.trace = c.store.trace ++ [(call, some e)] ∧ call.tolerates e = false

omit [ObjectStore σ] in
/-- A call that ended as expected is placed as it is. -/
theorem Called.placed {call : StoreCall} {failure : Option OperatorError} {c c' : Controller (Traced σ)}
    (h : Called call failure c c') (hpassed : Passed (call, failure))
    (hcreation : awaitsCreation (call, failure) = call.creates)
    (hdeletion : awaitsDeletion (call, failure) = call.deletes) : Placed key call failure c c' := by
  refine ⟨hpassed, h.trace, h.config, ?_⟩
  rw [hcreation, hdeletion, h.expectations, Int.sub_self, Int.sub_self]
  exact .refl key _

/-- A call that ended without an error has passed. -/
theorem passed_none (call : StoreCall) : Passed (call, none) := fun _ h => absurd h (by simp)

omit [ObjectStore σ] in
/-- A creation that has gone through stays expected until it is seen. -/
theorem Called.placed_creation (key : ExpectationKey) {call : StoreCall} {c₁ : Controller (Traced σ)}
    (h : Called call none c c₁) (hdeletes : call.deletes = false) : Placed key call none c c₁ :=
  h.placed (passed_none call) (Bool.and_true _) (by rw [awaitsDeletion, hdeletes, Bool.false_and])

/-- What is done about a creation that has not gone through, with what is told if it has to be given up. -/
def creationRejected (key : ExpectationKey) (warning : Event) (e : OperatorError) : ControllerM (Traced σ) Unit :=
  if e.isTimeout then pure ()
  else if e.isConflict then expecting fun x => x.creationObserved key
  else do
    tell warning
    throw e

omit [ObjectStore σ] in
/-- What is done about a creation that has not gone through: after a timeout or a conflict it is placed, and any other
error is a refusal. -/
theorem yields_creationRejected (key : ExpectationKey) {call : StoreCall} {e : OperatorError} {c₁ : Controller (Traced σ)}
    (h : Called call (some e) c c₁) (hcreates : call.creates = true) (hdeletes : call.deletes = false)
    (warning : Event) :
    Yields (creationRejected key warning e) c₁ (fun _ c' => ∃ failure, Placed key call failure c c')
      fun e c' => Refused (some call) e c c' := by
  have hdeletion : awaitsDeletion (call, some e) = call.deletes := by rw [awaitsDeletion, hdeletes, Bool.false_and]
  unfold creationRejected
  by_cases htimeout : e.isTimeout
  · -- What may still appear stays expected.
    rw [if_pos htimeout, yields_pure]
    refine ⟨some e, h.placed ?_ ?_ hdeletion⟩
    · rintro _ ⟨⟩
      simp [tolerates, hcreates, htimeout]
    · simp [awaitsCreation, htimeout]
  · rw [if_neg htimeout]
    by_cases hconflict : e.isConflict
    · rw [if_pos hconflict, yields_expecting]
      refine ⟨some e, ?_, h.trace, h.config, ?_⟩
      · rintro _ ⟨⟩
        simp [tolerates, hcreates, hconflict]
      · have hawaits : awaitsCreation (call, some e) = false := by simp [awaitsCreation, htimeout]
        rw [hawaits, hdeletion, hcreates, hdeletes, h.expectations]
        exact Expectations.lowered_lower _ key 1 0
    · rw [if_neg hconflict, yields_bind, yields_tell]
      refine ⟨h.expectations, h.trace, ?_⟩
      simp [tolerates, hdeletes, htimeout, hconflict]

/-- A request to delete a pod is one call, and a pod that is gone already is not expected to go. -/
theorem placed_deletePod (name : String) :
    Yields (deletePod job key name) c (fun _ c' => ∃ failure, Placed key (.deletePod ⟨job.ns, name⟩) failure c c')
      fun e c' => Refused (some (.deletePod ⟨job.ns, name⟩)) e c c' := by
  unfold deletePod
  rw [yields_bind, yields_attempt]
  refine (yields_request_traced (.deletePod ⟨job.ns, name⟩) c).mono (fun _ c₁ h => ?_) fun e c₁ h => ?_
  · have hplaced : Placed key (.deletePod ⟨job.ns, name⟩) none c c₁ := h.placed (passed_none _) rfl rfl
    exact ⟨none, hplaced.passed, hplaced.trace, hplaced.config, hplaced.expectations⟩
  · simp only
    -- A pod that is gone counts as deleted: the controller lowers the record for it itself.
    by_cases hgone : e.isNotFound
    · rw [if_pos hgone, yields_expecting]
      refine ⟨some e, ?_, h.trace, h.config, ?_⟩
      · rintro _ ⟨⟩
        simp [tolerates, deletes, hgone]
      · rw [h.expectations]
        exact Expectations.lowered_lower _ key 0 1
    · rw [if_neg hgone, yields_bind, yields_tell]
      refine ⟨h.expectations, h.trace, ?_⟩
      simp [tolerates, creates, deletes, hgone]

/-- The call that a request for a pod stands for, if the pod can be made. -/
def podCall? (config : Config) (job : Job) (replicaType : String) (spec : ReplicaSpec) :
    PodRequest → Option StoreCall
  | .replace name => some (.deletePod ⟨job.ns, name⟩)
  | .create index => do
    let template ← (job.slotTemplate spec.template (Text.lowercase replicaType) index).toOption
    let owner ← job.ownerReference.toOption
    some (.createPod job.ns (job.podFor config replicaType index spec.restart template owner))

/-- The call for the service of a slot, if the service can be made. -/
def serviceCall? (job : Job) (replicaType : String) (spec : ReplicaSpec) (index : Nat) : Option StoreCall := do
  let port ← spec.meetingPort.toOption
  let owner ← job.ownerReference.toOption
  some (.createService job.ns (job.serviceFor replicaType index port owner))

/-- A request is one call that has passed, or it has failed. -/
def Answered (key : ExpectationKey) (call? : Option StoreCall) (step : ControllerM (Traced σ) Unit)
    (c : Controller (Traced σ)) : Prop :=
  Yields step c (fun _ c' => ∃ call failure, call? = some call ∧ Placed key call failure c c')
    fun e c' => Refused call? e c c'

/-- Every request for a pod is answered, deletions and creations alike. -/
theorem answered_performPodRequest (r : PodRequest) :
    Answered key (podCall? c.config job replicaType spec r) (performPodRequest job key replicaType spec r) c := by
  unfold Answered
  cases r with
  | replace name =>
    exact (placed_deletePod name).mono (fun _ _ ⟨failure, h⟩ => ⟨_, failure, rfl, h⟩) fun _ _ => id
  | create index =>
    unfold performPodRequest createPod podCall?
    simp only
    rw [yields_bind, yields_get, yields_bind, yields_settle]
    -- Two errors can end a creation before its call: the template's and the owner's.
    rcases job.slotTemplate spec.template (Text.lowercase replicaType) index with e | template
    · exact ⟨rfl, rfl⟩
    · simp only
      rw [yields_bind, yields_tellAll, yields_bind, yields_settle]
      rcases job.ownerReference with e | owner
      · exact ⟨rfl, rfl⟩
      · simp only
        rw [yields_bind, yields_attempt]
        refine (yields_request_traced (.createPod job.ns
          (job.podFor c.config replicaType index spec.restart template owner)) _).mono (fun _ c₁ h => ?_) fun e c₁ h => ?_
        · have hplaced := Called.placed_creation key h rfl
          exact ⟨_, none, rfl, hplaced.passed, hplaced.trace, hplaced.config, hplaced.expectations⟩
        · refine (yields_creationRejected key h rfl rfl _).mono ?_ fun _ _ h => ⟨h.expectations, h.trace⟩
          rintro _ c' ⟨failure, h⟩
          exact ⟨_, failure, rfl, h.passed, h.trace, h.config, h.expectations⟩

/-- And so is every request for a service. Here the port and the owner may be wanting, before there is any call. -/
theorem answered_createService (index : Nat) :
    Answered key (serviceCall? job replicaType spec index) (createService job key replicaType spec index) c := by
  unfold Answered createService serviceCall?
  simp only
  rw [yields_bind, yields_settle]
  -- As for the pod: no port or no owner, and there is no call at all.
  rcases spec.meetingPort with e | port
  · exact ⟨rfl, rfl⟩
  · simp only
    rw [yields_bind, yields_settle]
    rcases job.ownerReference with e | owner
    · exact ⟨rfl, rfl⟩
    · simp only
      rw [yields_bind, yields_attempt]
      refine (yields_request_traced (.createService job.ns (job.serviceFor replicaType index port owner)) c).mono
        (fun _ c₁ h => ?_) fun e c₁ h => ?_
      · have hplaced := Called.placed_creation key h rfl
        exact ⟨_, none, rfl, hplaced.passed, hplaced.trace, hplaced.config, hplaced.expectations⟩
      · exact (yields_creationRejected key h rfl rfl _).mono (fun _ _ ⟨failure, h⟩ => ⟨_, failure, rfl, h⟩) fun _ _ => id

/-! ## Requests in turn -/

section InTurn

variable {ρ : Type} {creates : ρ → Bool} {call? : ρ → Option StoreCall} {step : ρ → ControllerM (Traced σ) Unit}
  {requests : List ρ} {result : Option OperatorError} {now : Timestamp}

/-- Makes requests in turn, each of them for a creation or for a deletion. At the first that fails, the
expectations are lowered by it and all that follow. -/
def inTurn (key : ExpectationKey) (creates : ρ → Bool) (step : ρ → ControllerM (Traced σ) Unit) :
    List ρ → ControllerM (Traced σ) Unit
  | [] => pure ()
  | r :: rest => do
    match ← attempt (step r) with
    | .ok () => inTurn key creates step rest
    | .error e =>
      expecting fun x => x.lower key ((r :: rest).countP creates) ((r :: rest).countP fun r => !creates r)
      throw e

/-- The requests have run, and what is expected is less by what will not be seen of them. -/
structure Carried (key : ExpectationKey) (creates : ρ → Bool) (call? : ρ → Option StoreCall) (requests : List ρ)
    (made : List (StoreCall × Option OperatorError)) (result : Option OperatorError)
    (c c' : Controller (Traced σ)) : Prop where
  ran : Ran call? requests made result
  trace : c'.store.trace = c.store.trace ++ made
  expectations : c.expectations.Lowered key (requests.countP creates - made.countP awaitsCreation : Int)
    ((requests.countP fun r => !creates r) - made.countP awaitsDeletion : Int) c'.expectations

omit [ObjectStore σ] in
/-- A request that has passed goes before the others. -/
theorem Placed.carried {r : ρ} {call : StoreCall} {failure : Option OperatorError}
    {made : List (StoreCall × Option OperatorError)} {c₁ c₂ : Controller (Traced σ)}
    (h : Placed key call failure c c₁) (hcall : call? r = some call)
    (hkind : call.creates = creates r ∧ call.deletes = !creates r)
    (hrest : Carried key creates call? requests made result c₁ c₂) :
    Carried key creates call? (r :: requests) ((call, failure) :: made) result c c₂ := by
  refine ⟨.passed hcall h.passed hrest.ran, ?_, ?_⟩
  · rw [hrest.trace, h.trace, List.append_assoc, List.singleton_append]
  · have hsum := h.expectations.trans hrest.expectations
    -- What the first request takes off the record and what the others do add up.
    have hcount : ∀ (p : StoreCall × Option OperatorError → Bool) (q : ρ → Bool) (b : Bool), b = q r →
        ((b.toNat : Int) - (p (call, failure)).toNat + (requests.countP q - made.countP p)) =
          (r :: requests).countP q - ((call, failure) :: made).countP p := by
      rintro p q _ rfl
      rw [List.countP_cons, List.countP_cons]
      cases q r <;> cases p (call, failure) <;> simp <;> omega
    rw [hcount awaitsCreation creates _ hkind.1, hcount awaitsDeletion (fun r => !creates r) _ hkind.2] at hsum
    exact hsum

omit [ObjectStore σ] in
/-- Requests that are each answered have run when they are made in turn, whichever of them fails. -/
theorem carried_inTurn {config : Config}
    (hstep : ∀ r (c : Controller (Traced σ)), c.config = config → Answered key (call? r) (step r) c)
    (hkind : ∀ r call, call? r = some call → call.creates = creates r ∧ call.deletes = !creates r) :
    ∀ (requests : List ρ) (c : Controller (Traced σ)), c.config = config →
      Yields (inTurn key creates step requests) c
        (fun _ c' => ∃ made, Carried key creates call? requests made none c c')
        fun e c' => ∃ made, Carried key creates call? requests made (some e) c c'
  | [], c, _ => ⟨[], .done, (List.append_nil _).symm, .refl key _⟩
  | r :: rest, c, hconfig => by
    unfold inTurn
    rw [yields_bind, yields_attempt]
    refine (hstep r c hconfig).mono (fun _ c₁ h => ?_) fun e c₁ h => ?_
    · obtain ⟨call, failure, hcall, hplaced⟩ := h
      have hgo : ∀ result c₂, (∃ made, Carried key creates call? rest made result c₁ c₂) →
          ∃ made, Carried key creates call? (r :: rest) made result c c₂ := by
        rintro result c₂ ⟨made, hmade⟩
        exact ⟨_, hplaced.carried hcall (hkind r call hcall) hmade⟩
      exact (carried_inTurn hstep hkind rest c₁ (hplaced.config.trans hconfig)).mono
        (fun _ => hgo none) fun e => hgo (some e)
    · simp only
      rw [yields_bind, yields_expecting]
      have hlowered : c.expectations.Lowered key ((r :: rest).countP creates) ((r :: rest).countP fun r => !creates r)
          (c₁.expectations.lower key ((r :: rest).countP creates) ((r :: rest).countP fun r => !creates r)) := by
        rw [h.expectations]
        exact Expectations.lowered_lower _ _ _ _
      have htrace := h.trace
      rcases hcall : call? r with _ | call
      · rw [hcall] at htrace
        refine ⟨[], .unmade hcall, htrace.trans (List.append_nil _).symm, ?_⟩
        simpa using hlowered
      · rw [hcall] at htrace
        obtain ⟨htrace, hfailed⟩ := htrace
        refine ⟨[(call, some e)], .failed hcall hfailed, htrace, ?_⟩
        -- Nothing will be seen of the call that failed.
        obtain ⟨hcreation, hdeletion⟩ := awaits_of_not_tolerates hfailed
        rw [List.countP_singleton, List.countP_singleton, hcreation, hdeletion]
        simpa using hlowered

end InTurn

/-! ## One replica type -/

/-- The books after calls: the record of the key is what the calls leave to be seen, if there were any, and no
other record has changed. -/
structure Booked (key : ExpectationKey) (now : Timestamp) (made : List (StoreCall × Option OperatorError))
    (e e' : Expectations) : Prop where
  here : made ≠ [] → e'.records.get? key = some ⟨made.countP awaitsCreation, made.countP awaitsDeletion, now⟩
  elsewhere : ∀ other, other ≠ key → e'.records.get? other = e.records.get? other

/-- What bringing a replica type in line has done: it has gone through its requests, unless something was
outstanding under its key. -/
structure Attended {ρ : Type} (key : ExpectationKey) (now : Timestamp) (call? : ρ → Option StoreCall)
    (requests : List ρ) (made : List (StoreCall × Option OperatorError)) (result : Option OperatorError)
    (c c' : Controller (Traced σ)) : Prop where
  trace : c'.store.trace = c.store.trace ++ made
  books : Booked key now made c.expectations c'.expectations
  ran : if c.expectations.satisfied key now then Ran call? requests made result else made = [] ∧ result = none

variable {now : Timestamp}

omit [ObjectStore σ] in
/-- Nothing was done, since nothing was asked for or something was outstanding. -/
theorem attended_of_idle {ρ : Type} {call? : ρ → Option StoreCall} {requests : List ρ} {c' : Controller (Traced σ)}
    (hidle : requests = [] ∨ c.expectations.satisfied key now = false) (hstore : c'.store = c.store)
    (hexpectations : c'.expectations = c.expectations) :
    Attended key now call? requests [] none c c' := by
  refine ⟨by rw [hstore, List.append_nil], ⟨fun h => absurd rfl h, fun _ _ => by rw [hexpectations]⟩, ?_⟩
  rcases hidle with rfl | hidle
  · split
    · exact .done
    · exact ⟨rfl, rfl⟩
  · rw [if_neg (by simp [hidle])]
    exact ⟨rfl, rfl⟩

omit [ObjectStore σ] in
/-- What was written down before the requests, less what the requests took off it, is what they leave to be
seen. -/
theorem Carried.attended {ρ : Type} {creates : ρ → Bool} {call? : ρ → Option StoreCall} {requests : List ρ}
    {made : List (StoreCall × Option OperatorError)} {result : Option OperatorError} {c₁ c' : Controller (Traced σ)}
    (h : Carried key creates call? requests made result c₁ c') (hsatisfied : c.expectations.satisfied key now = true)
    (hstore : c₁.store = c.store)
    (hset : c₁.expectations = c.expectations.set key (requests.countP creates)
      (requests.countP fun r => !creates r) now) :
    Attended key now call? requests made result c c' := by
  have hlowered := h.expectations
  rw [hset] at hlowered
  refine ⟨by rw [h.trace, hstore], ⟨fun _ => ?_, fun other => hlowered.elsewhere_of_set⟩, ?_⟩
  · rw [hlowered.of_set, Int.sub_sub_self, Int.sub_sub_self]
  · rw [if_pos hsatisfied]
    exact h.ran

/-- The request is for a creation. -/
def isCreation : PodRequest → Bool
  | .create _ => true
  | .replace _ => false

/-- The creations among the requests are those that are no deletions. -/
theorem creations_eq_countP (requests : List PodRequest) : creations requests = requests.countP isCreation :=
  congrArg (requests.countP ·) (funext fun r => by cases r <;> rfl)

theorem deletions_eq_countP (requests : List PodRequest) :
    deletions requests = requests.countP fun r => !isCreation r :=
  congrArg (requests.countP ·) (funext fun r => by cases r <;> rfl)

/-- The requests for pods are made in turn. -/
theorem performPodRequests_eq_inTurn (requests : List PodRequest) :
    (performPodRequests job key replicaType spec requests : ControllerM (Traced σ) Unit) =
      inTurn key isCreation (performPodRequest job key replicaType spec) requests := by
  induction requests with
  | nil => rfl
  | cons r rest ih =>
    unfold performPodRequests inTurn
    refine bind_congr fun answer => ?_
    cases answer with
    | ok _ => exact ih
    -- After an error both sides lower by the counts of the rest, written in two ways.
    | error e =>
      simp only
      rw [creations_eq_countP, deletions_eq_countP]

/-- And those for services, which are all creations. -/
theorem createServices_eq_inTurn (missing : List Nat) :
    (createServices job key replicaType spec missing : ControllerM (Traced σ) Unit) =
      inTurn key (fun _ => true) (createService job key replicaType spec) missing := by
  induction missing with
  | nil => rfl
  | cons index rest ih =>
    unfold createServices inTurn
    refine bind_congr fun answer => ?_
    cases answer with
    | ok _ => exact ih
    | error e =>
      simp only
      rw [List.countP_true, Bool.not_true, List.countP_false]
      rfl

/-- The call that a request stands for is of the kind that the request is counted as. -/
theorem creates_of_podCall? {config : Config} {r : PodRequest} {call : StoreCall}
    (h : podCall? config job replicaType spec r = some call) :
    call.creates = isCreation r ∧ call.deletes = !isCreation r := by
  cases r with
  | replace name =>
    obtain rfl := Option.some.inj h
    exact ⟨rfl, rfl⟩
  | create index =>
    simp only [podCall?, Option.bind_eq_bind, Option.bind_eq_some_iff, Option.some.injEq] at h
    obtain ⟨_, _, _, _, rfl⟩ := h
    exact ⟨rfl, rfl⟩

theorem creates_of_serviceCall? {index : Nat} {call : StoreCall}
    (h : serviceCall? job replicaType spec index = some call) : call.creates = true ∧ call.deletes = !true := by
  simp only [serviceCall?, Option.bind_eq_bind, Option.bind_eq_some_iff, Option.some.injEq] at h
  obtain ⟨_, _, _, _, rfl⟩ := h
  exact ⟨rfl, rfl⟩

/-- So the requests for pods run, and the record is less by what will not be seen of them. -/
theorem carried_performPodRequests (requests : List PodRequest) (c : Controller (Traced σ)) :
    Yields (performPodRequests job key replicaType spec requests) c
      (fun _ c' => ∃ made,
        Carried key isCreation (podCall? c.config job replicaType spec) requests made none c c')
      fun e c' => ∃ made,
        Carried key isCreation (podCall? c.config job replicaType spec) requests made (some e) c c' := by
  rw [performPodRequests_eq_inTurn]
  refine carried_inTurn (fun r c₁ hconfig => ?_) (fun _ _ => creates_of_podCall?) requests c rfl
  rw [← hconfig]
  exact answered_performPodRequest r

/-- And so do those for services. -/
theorem carried_createServices (missing : List Nat) (c : Controller (Traced σ)) :
    Yields (createServices job key replicaType spec missing) c
      (fun _ c' => ∃ made, Carried key (fun _ => true) (serviceCall? job replicaType spec) missing made none c c')
      fun e c' => ∃ made,
        Carried key (fun _ => true) (serviceCall? job replicaType spec) missing made (some e) c c' := by
  rw [createServices_eq_inTurn]
  exact carried_inTurn (fun index _ _ => answered_createService index) (fun _ _ => creates_of_serviceCall?) missing
    c rfl

/-- The pods of a replica type are brought in line by the requests of its plan. -/
theorem attended_reconcilePods (pods : List Pod) :
    Yields (reconcilePods now job replicaType spec pods) c
      (fun replaced c' =>
        replaced = (if c.expectations.satisfied (.of job.key replicaType .pods) now then
          (podPlan replicaType spec pods).restarts.length else 0) ∧
        ∃ made, Attended (.of job.key replicaType .pods) now (podCall? c.config job replicaType spec)
          (podPlan replicaType spec pods).requests made none c c')
      fun e c' => ∃ made, Attended (.of job.key replicaType .pods) now (podCall? c.config job replicaType spec)
        (podPlan replicaType spec pods).requests made (some e) c c' := by
  unfold reconcilePods carryOut
  generalize podPlan replicaType spec pods = plan
  obtain ⟨hcreations, hdeletions⟩ := plan.announced
  rw [creations_eq_countP] at hcreations
  rw [deletions_eq_countP] at hdeletions
  simp only
  rw [yields_bind, yields_tellAll]
  -- Nothing to ask for, or pending observations: the pass leaves this type alone.
  by_cases hnone : plan.requests = []
  · rw [if_pos (List.isEmpty_iff.2 hnone), yields_pure]
    have hrestarts : plan.restarts.length = 0 := by
      rw [← hdeletions, hnone]
      rfl
    exact ⟨by rw [hrestarts, ite_self], [], attended_of_idle (.inl hnone) rfl rfl⟩
  · rw [if_neg (mt List.isEmpty_iff.1 hnone), yields_bind, yields_get]
    simp only
    rcases hsatisfied : c.expectations.satisfied (.of job.key replicaType .pods) now with _ | _
    · exact ⟨rfl, [], attended_of_idle (.inr hsatisfied) rfl rfl⟩
    · rw [if_neg (by decide), yields_bind, yields_expecting, yields_bind]
      refine (carried_performPodRequests plan.requests _).mono ?_ ?_
      · rintro _ c' ⟨made, h⟩
        refine ⟨rfl, made, h.attended hsatisfied rfl ?_⟩
        rw [hcreations, hdeletions]
      · rintro e c' ⟨made, h⟩
        refine ⟨made, h.attended hsatisfied rfl ?_⟩
        rw [hcreations, hdeletions]

/-- The services of a replica type are brought in line by a request for each slot without one. -/
theorem attended_reconcileServices (services : List Service) :
    Yields (reconcileServices now job replicaType spec services) c
      (fun _ c' => ∃ made, Attended (.of job.key replicaType .services) now (serviceCall? job replicaType spec)
        (vacant (slotsOf replicaType spec.slotCount services)) made none c c')
      fun e c' => ∃ made, Attended (.of job.key replicaType .services) now (serviceCall? job replicaType spec)
        (vacant (slotsOf replicaType spec.slotCount services)) made (some e) c c' := by
  unfold reconcileServices
  simp only
  generalize vacant (slotsOf replicaType spec.slotCount services) = missing
  by_cases hnone : missing = []
  · rw [if_pos (List.isEmpty_iff.2 hnone)]
    exact ⟨[], attended_of_idle (.inl hnone) rfl rfl⟩
  · rw [if_neg (mt List.isEmpty_iff.1 hnone), yields_bind, yields_get]
    rcases hsatisfied : c.expectations.satisfied (.of job.key replicaType .services) now with _ | _
    · exact ⟨[], attended_of_idle (.inr hsatisfied) rfl rfl⟩
    · rw [if_neg (by decide), yields_bind, yields_expecting]
      refine (carried_createServices missing _).mono ?_ ?_
      -- Services are only ever created, so every request counts and none is a deletion.
      all_goals
        rintro _ c' ⟨made, h⟩
        refine ⟨made, h.attended hsatisfied rfl ?_⟩
        rw [List.countP_true, Bool.not_true, List.countP_false]
        rfl

/-- **The books balance on every exit.** Where bringing the pods of a replica type in line, or its services, has
made any call, the record of its key is in the end, with or without an error, what is still to be seen: one
creation for every creation that went through or was not answered in time, and one deletion for every deletion
that went through. No other record has changed. -/
theorem ledger_balances {σ : Type} [ObjectStore σ] (now : Timestamp) (job : Job) (replicaType : String)
    (spec : ReplicaSpec) (c : Controller (Traced σ)) :
    (∀ pods, ∃ made,
      let c' := ((reconcilePods now job replicaType spec pods).run c).2
      c'.store.trace = c.store.trace ++ made ∧
        Booked (.of job.key replicaType .pods) now made c.expectations c'.expectations) ∧
    ∀ services, ∃ made,
      let c' := ((reconcileServices now job replicaType spec services).run c).2
      c'.store.trace = c.store.trace ++ made ∧
        Booked (.of job.key replicaType .services) now made c.expectations c'.expectations := by
  refine ⟨fun pods => ?_, fun services => ?_⟩
  · refine Yields.run (P := fun c' : Controller (Traced σ) => ∃ made, c'.store.trace = c.store.trace ++ made ∧
      Booked (.of job.key replicaType .pods) now made c.expectations c'.expectations) ?_
    exact (attended_reconcilePods pods).mono (fun _ _ ⟨_, made, h⟩ => ⟨made, h.trace, h.books⟩)
      fun _ _ ⟨made, h⟩ => ⟨made, h.trace, h.books⟩
  · refine Yields.run (P := fun c' : Controller (Traced σ) => ∃ made, c'.store.trace = c.store.trace ++ made ∧
      Booked (.of job.key replicaType .services) now made c.expectations c'.expectations) ?_
    exact (attended_reconcileServices services).mono (fun _ _ ⟨made, h⟩ => ⟨made, h.trace, h.books⟩)
      fun _ _ ⟨made, h⟩ => ⟨made, h.trace, h.books⟩

/-- A job of one master and five workers that are replaced by their exit codes. -/
def replacedJob : Job :=
  let job := sampleJob {} [("master", sampleType 1 .never), ("worker", sampleType 5 .exitCode)] none
  { job with metadata := { job.metadata with uid := some "uid-1" } }.withDefaults

/-- Its first two workers failed, and the second is gone from the store by now. The first creation is not answered
in time, the second finds something in its place, and the third fails. -/
def troubledStart : Controller (Traced MemoryStore) :=
  let store := MemoryStore.insertPod { clock := ⟨0⟩ } (samplePod "worker" 0 "Failed" (some 137))
  let errors := [.timeout "create", .api (.alreadyExists "pods" "iris-worker-3"), .exchange]
  .new {} { store := { store with failures := errors.map (.createPod, ·) } }

def troubledRun : Except OperatorError Nat × Controller (Traced MemoryStore) :=
  (reconcilePods (sampleTime 7) replacedJob "worker" (sampleType 5 .exitCode)
    [samplePod "worker" 0 "Failed" (some 137), samplePod "worker" 1 "Failed" none]).run troubledStart

/-- Of the five calls, one deletion and one creation are left to be seen. -/
theorem ledger_balances_troubledStart :
    Traced.failure? troubledRun.1 = some .exchange ∧ troubledRun.2.store.trace.length = 5 ∧
      troubledRun.2.expectations.records.get? (.of replacedJob.key "worker" .pods) = some ⟨1, 1, sampleTime 7⟩ := by
  have hresult : Traced.failure? troubledRun.1 = some .exchange ∧ troubledRun.2.store.trace.length = 5 := by
    decide +kernel
  have hcounts : troubledRun.2.store.trace.countP awaitsCreation = 1 ∧
      troubledRun.2.store.trace.countP awaitsDeletion = 1 := by decide +kernel
  obtain ⟨made, htrace, hbooks⟩ := (ledger_balances (sampleTime 7) replacedJob "worker" (sampleType 5 .exitCode)
    troubledStart).1 [samplePod "worker" 0 "Failed" (some 137), samplePod "worker" 1 "Failed" none]
  rw [← troubledRun] at htrace hbooks
  -- Before the run nothing had been called for.
  rw [show troubledStart.store.trace = [] from rfl, List.nil_append] at htrace
  have hrecord := hbooks.here (List.length_pos_iff.1 (by rw [← htrace, hresult.2]; decide))
  rw [← htrace, hcounts.1, hcounts.2] at hrecord
  exact ⟨hresult.1, hresult.2, hrecord⟩

end Controller

end TrainingJobs
