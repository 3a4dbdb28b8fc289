/-
How a step of a controller ends, and what it leaves alone.

A step runs through requests that may each be refused, and what it did before the refusal stays done. So a
statement about a step has two halves, one for each way it can end. `Yields` says both at once, and it is an
equivalence for every way steps are put together: `yields_bind` and its companions take a step apart from the
front, and nothing about the step is lost on the way.

Most of what a pass does leaves most of the state alone. `Keeps` says that of a step, for any relation that
holds from a state to itself and along two steps (`Frame`). The relation is proved once for each request and
then holds of every step that is made of them, however it ends.
-/
import TrainingJobs.Controller.Process

set_option autoImplicit false

namespace TrainingJobs

namespace Controller

variable {σ α β : Type}

/-! ## How a step ends -/

/-- However the step ends from `c`: with an answer and a controller of which `done` holds, or with an error
and a controller of which `failed` holds. -/
def Yields (step : ControllerM σ α) (c : Controller σ) (done : α → Controller σ → Prop)
    (failed : OperatorError → Controller σ → Prop) : Prop :=
  match step.run c with
  | (.ok a, c') => done a c'
  | (.error e, c') => failed e c'

section Yields

variable {c : Controller σ} {done : α → Controller σ → Prop} {failed : OperatorError → Controller σ → Prop}

/-- What is known of a step that ends with a result, read off its run. -/
theorem Yields.ok {step : ControllerM σ α} (h : Yields step c done failed) {a : α} {c' : Controller σ}
    (hrun : step.run c = (.ok a, c')) : done a c' := by
  rw [Yields, hrun] at h
  exact h

/-- What is known of a step that ends with an error, read off its run. -/
theorem Yields.error {step : ControllerM σ α} (h : Yields step c done failed) {e : OperatorError}
    {c' : Controller σ} (hrun : step.run c = (.error e, c')) : failed e c' := by
  rw [Yields, hrun] at h
  exact h

/-- What holds of the controller however the step ends holds of it after the run. -/
theorem Yields.run {step : ControllerM σ α} {P : Controller σ → Prop}
    (h : Yields step c (fun _ c' => P c') fun _ c' => P c') : P (step.run c).2 := by
  unfold Yields at h
  rcases hrun : step.run c with ⟨e | a, c'⟩ <;> simpa only [hrun] using h

/-- A step that does not end well ends with some error, in the state that it leaves. -/
theorem exists_run_error {step : ControllerM σ α} (h : (step.run c).1.isOk = false) :
    ∃ e, step.run c = (.error e, (step.run c).2) := by
  rcases hrun : step.run c with ⟨e | a, c'⟩
  · exact ⟨e, rfl⟩
  · rw [hrun] at h
    exact absurd h (by simp [Except.isOk, Except.toBool])

/-- A step that ends well ends with some result, in the state that it leaves. -/
theorem exists_run_ok {step : ControllerM σ α} (h : (step.run c).1.isOk = true) :
    ∃ a, step.run c = (.ok a, (step.run c).2) := by
  rcases hrun : step.run c with ⟨e | a, c'⟩
  · rw [hrun] at h
    exact absurd h (by simp [Except.isOk, Except.toBool])
  · exact ⟨a, rfl⟩

/-- A step that yields something yields everything that follows from it. -/
theorem Yields.mono {step : ControllerM σ α} {done' : α → Controller σ → Prop}
    {failed' : OperatorError → Controller σ → Prop} (h : Yields step c done failed)
    (hdone : ∀ a c', done a c' → done' a c') (hfailed : ∀ e c', failed e c' → failed' e c') :
    Yields step c done' failed' := by
  unfold Yields at h ⊢
  rcases hrun : step.run c with ⟨a | a, c'⟩
  · rw [hrun] at h
    exact hfailed _ _ h
  · rw [hrun] at h
    exact hdone _ _ h

/-- Two things that are known of a step hold together. -/
theorem Yields.and {step : ControllerM σ α} {done' : α → Controller σ → Prop}
    {failed' : OperatorError → Controller σ → Prop} (h : Yields step c done failed)
    (h' : Yields step c done' failed') :
    Yields step c (fun a c' => done a c' ∧ done' a c') fun e c' => failed e c' ∧ failed' e c' := by
  unfold Yields at h h' ⊢
  rcases hrun : step.run c with ⟨a | a, c'⟩
  all_goals
    rw [hrun] at h h'
    exact ⟨h, h'⟩

/-- Of any step it is known that it ends. -/
theorem Yields.trivial (step : ControllerM σ α) (c : Controller σ) :
    Yields step c (fun _ _ => True) fun _ _ => True := by
  unfold Yields
  rcases step.run c with ⟨a | a, c'⟩ <;> exact True.intro

@[simp] theorem yields_pure (a : α) : Yields (pure a : ControllerM σ α) c done failed ↔ done a c := Iff.rfl

@[simp] theorem yields_settle (result : Except OperatorError α) :
    Yields (settle result : ControllerM σ α) c done failed ↔
      match result with
      | .ok a => done a c
      | .error e => failed e c := by
  cases result <;> exact Iff.rfl

/-- After a result a step goes on with what comes next. -/
theorem run_bind_ok {step : ControllerM σ α} {a : α} {c' : Controller σ} (next : α → ControllerM σ β)
    (h : step.run c = (.ok a, c')) : (step >>= next).run c = (next a).run c' := by
  change ExceptT.bindCont next (step.run c).1 (step.run c).2 = _
  rw [h]
  rfl

/-- A step that fails ends the whole: what comes after it is never reached. -/
theorem run_bind_error {step : ControllerM σ α} {e : OperatorError} {c' : Controller σ}
    (next : α → ControllerM σ β) (h : step.run c = (.error e, c')) :
    (step >>= next).run c = (.error e, c') := by
  change ExceptT.bindCont next (step.run c).1 (step.run c).2 = _
  rw [h]
  rfl

/-- One step after another yields what the second does in every state in which the first can leave it; if the first
fails, the second is not taken. -/
theorem yields_bind (step : ControllerM σ α) (next : α → ControllerM σ β)
    {done : β → Controller σ → Prop} :
    Yields (step >>= next) c done failed ↔
      Yields step c (fun a c' => Yields (next a) c' done failed) failed := by
  unfold Yields
  rcases hrun : step.run c with ⟨e | a, c'⟩
  · rw [run_bind_error next hrun]
  · rw [run_bind_ok next hrun]

/-- An attempt never fails: the failure of the step is a result like any other. -/
@[simp] theorem yields_attempt (step : ControllerM σ α) {done : Except OperatorError α → Controller σ → Prop} :
    Yields (attempt step) c done failed ↔
      Yields step c (fun a c' => done (.ok a) c') (fun e c' => done (.error e) c') := by
  -- The error becomes an answer; what was done before it stays done.
  have hattempt : (attempt step).run c = (.ok (step.run c).1, (step.run c).2) := rfl
  unfold Yields
  rw [hattempt]
  rcases step.run c with ⟨a | a, c'⟩ <;> exact Iff.rfl

/-- A request changes the store alone, as the operation does. -/
theorem yields_request (op : StoreM σ α) :
    Yields (request op) c done failed ↔
      match op.run c.store with
      | (.ok a, store) => done a { c with store := store }
      | (.error e, store) => failed e { c with store := store } := by
  have hrequest : (request op).run c = ((op.run c.store).1, { c with store := (op.run c.store).2 }) := rfl
  unfold Yields
  rw [hrequest]
  rcases op.run c.store with ⟨a | a, store⟩ <;> exact Iff.rfl

variable {done : Unit → Controller σ → Prop}

@[simp] theorem yields_tellAll (events : List Event) :
    Yields (tellAll events) c done failed ↔ done () { c with events := c.events ++ events } := Iff.rfl

@[simp] theorem yields_tell (event : Event) :
    Yields (tell event) c done failed ↔ done () { c with events := c.events ++ [event] } := Iff.rfl

@[simp] theorem yields_expecting (f : Expectations → Expectations) :
    Yields (expecting f) c done failed ↔ done () { c with expectations := f c.expectations } := Iff.rfl

@[simp] theorem yields_get {done : Controller σ → Controller σ → Prop} :
    Yields (get : ControllerM σ (Controller σ)) c done failed ↔ done c c := Iff.rfl

end Yields

/-! ## What a step leaves alone -/

/-- A relation between a controller and a later one that telling events does not break. -/
structure Frame (R : Controller σ → Controller σ → Prop) : Prop where
  refl : ∀ c, R c c
  trans : ∀ {c₁ c₂ c₃}, R c₁ c₂ → R c₂ c₃ → R c₁ c₃
  /-- Telling more keeps it. -/
  told : ∀ c events, R c { c with events := c.events ++ events }

/-- A log that telling does not change, and to which only what is as it should be is added. -/
theorem Frame.ofLog {β : Type} (log : Controller σ → List β)
    (hlog : ∀ c events, log { c with events := c.events ++ events } = log c) (p : β → Prop) :
    Frame fun c c' => ∃ added, log c' = log c ++ added ∧ ∀ x ∈ added, p x where
  refl c := ⟨[], (List.append_nil _).symm, fun _ h => absurd h List.not_mem_nil⟩
  trans := by
    rintro c₁ c₂ c₃ ⟨added, hadded, hall⟩ ⟨more, hmore, hrest⟩
    refine ⟨added ++ more, by rw [hmore, hadded, List.append_assoc], fun x hx => ?_⟩
    exact (List.mem_append.1 hx).elim (hall x) (hrest x)
  told c events := ⟨[], by rw [hlog, List.append_nil], fun _ h => absurd h List.not_mem_nil⟩

/-- The relation holds between where the step starts and where it ends, whichever way it ends. -/
def Keeps (R : Controller σ → Controller σ → Prop) (step : ControllerM σ α) : Prop :=
  ∀ c, Yields step c (fun _ c' => R c c') (fun _ c' => R c c')

/-- The controller after a request, whatever the answer was. -/
def requested (op : StoreM σ α) (c : Controller σ) : Controller σ := { c with store := (op.run c.store).2 }

/-- The controller with other expectations. -/
def expected (f : Expectations → Expectations) (c : Controller σ) : Controller σ :=
  { c with expectations := f c.expectations }

section Keeps

variable {R : Controller σ → Controller σ → Prop}

/-- A relation that a step keeps holds between the states before and after it. -/
theorem Keeps.run {step : ControllerM σ α} (h : Keeps R step) (c : Controller σ) : R c (step.run c).2 :=
  (h c).run

/-- A request keeps a relation that the operation keeps, however it ends. -/
theorem keeps_request {op : StoreM σ α} (h : ∀ c, R c (requested op c)) : Keeps R (request op) := by
  intro c
  have hc := h c
  rw [yields_request]
  unfold requested at hc
  rcases hrun : op.run c.store with ⟨a | a, store⟩ <;> simpa only [hrun] using hc

theorem keeps_expecting {f : Expectations → Expectations} (h : ∀ c, R c (expected f c)) :
    Keeps R (expecting f) := h

/-- What keeps a relation does so when it is attempted, too. -/
theorem keeps_attempt {step : ControllerM σ α} (h : Keeps R step) : Keeps R (attempt step) := fun c =>
  (yields_attempt step).2 (h c)

variable (hR : Frame R)
include hR

theorem Frame.pure (a : α) : Keeps R (pure a) := hR.refl

theorem Frame.throw (e : OperatorError) : Keeps R (throw e : ControllerM σ α) := hR.refl

theorem Frame.get : Keeps R get := hR.refl

theorem Frame.settle (result : Except OperatorError α) : Keeps R (settle result) := by
  intro c
  rw [yields_settle]
  cases result <;> exact hR.refl c

theorem Frame.tellAll (events : List Event) : Keeps R (tellAll events) := fun c => hR.told c _

theorem Frame.tell (event : Event) : Keeps R (tell event) := fun c => hR.told c _

/-- Two steps that keep a relation keep it one after the other, since it is transitive. -/
theorem Frame.bind {step : ControllerM σ α} {next : α → ControllerM σ β} (h : Keeps R step)
    (hnext : ∀ a, Keeps R (next a)) : Keeps R (step >>= next) := by
  intro c
  rw [yields_bind]
  -- Up to `c₁` the first step has got, and from there the next one, whichever way it ends.
  refine (h c).mono (fun a c₁ h₁ => ?_) fun _ _ h₁ => h₁
  exact (hnext a c₁).mono (fun _ _ h₂ => hR.trans h₁ h₂) fun _ _ h₂ => hR.trans h₁ h₂

/-- What comes after a computed answer only has to be looked at for the answer that there is. -/
theorem Frame.bind_settle {result : Except OperatorError α} {next : α → ControllerM σ β}
    (hnext : ∀ a, result = .ok a → Keeps R (next a)) : Keeps R (Controller.settle result >>= next) := by
  cases result with
  | error e => exact hR.refl
  | ok a => exact hnext a rfl

end Keeps

end Controller

end TrainingJobs
