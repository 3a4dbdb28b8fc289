/-
The controller: what it holds, and the steps it is made of.

A controller works on a store and keeps beside it what it expects to see, how often each job was retried and
what it has told the users. A step takes all of that to the next state and may fail; what it did before it
failed stays done.
-/
import TrainingJobs.Backoff
import TrainingJobs.Event
import TrainingJobs.Expectations
import TrainingJobs.Store.Interface

set_option autoImplicit false

namespace TrainingJobs

structure Config where
  /-- Whether the pods of a job are placed together. -/
  gang : Bool := false
  scheduler : String := PodGroup.defaultScheduler
  /-- How long the controller waits to see what it asked for. -/
  expectationsTimeout : Duration := Expectations.defaultTimeout
  deriving DecidableEq, Repr, Inhabited

/-- A controller on a store with states `σ`. -/
structure Controller (σ : Type) where
  config : Config
  store : σ
  events : List Event := []
  expectations : Expectations
  /-- How often each job was retried. -/
  retries : Retries := .standard

/-- A step of a controller. -/
abbrev ControllerM (σ α : Type) := ExceptT OperatorError (StateM (Controller σ)) α

namespace Controller

variable {σ α : Type}

def new (config : Config) (store : σ) : Controller σ where
  config := config
  store := store
  expectations := .new config.expectationsTimeout

/-- Makes a request to the store. -/
def request (op : StoreM σ α) : ControllerM σ α := fun c =>
  let (answer, store) := op.run c.store
  (answer, { c with store := store })

/-- Takes a step and hands over its failure as a value. -/
def attempt (step : ControllerM σ α) : ControllerM σ (Except OperatorError α) := fun c =>
  let (answer, c) := step.run c
  (.ok answer, c)

/-- Takes over what was computed without the controller. -/
def settle (result : Except OperatorError α) : ControllerM σ α := fun c => (result, c)

def tell (event : Event) : ControllerM σ Unit := modify fun c => { c with events := c.events ++ [event] }

def tellAll (events : List Event) : ControllerM σ Unit :=
  modify fun c => { c with events := c.events ++ events }

def expecting (f : Expectations → Expectations) : ControllerM σ Unit :=
  modify fun c => { c with expectations := f c.expectations }

/-- Counts a retry of a job, and says how long to wait before it. -/
def requeue (key : String) (c : Controller σ) : Duration × Controller σ :=
  let (delay, retries) := c.retries.requeue key
  (delay, { c with retries := retries })

def forget (key : String) (c : Controller σ) : Controller σ :=
  { c with retries := c.retries.forget key }

end Controller

end TrainingJobs
