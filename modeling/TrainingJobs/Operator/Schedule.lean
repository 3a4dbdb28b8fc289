/-
When the operator acts: the jobs that wait to be looked at, and the rests after failures.

All instants here are readings of the operator's timers, in milliseconds since it was started.
-/
import TrainingJobs.Dict
import TrainingJobs.Object.Designation
import TrainingJobs.Time.Basic

set_option autoImplicit false

namespace TrainingJobs

/-- When each job that waits is to be looked at. -/
abbrev Schedule := Dict Designation Nat

namespace Schedule

/-- The longest time that a job waits: 180 days. -/
def longestWait : Nat := 180 * 24 * 60 * 60 * 1000

/-- Schedules a job. One that is scheduled already keeps the earlier time, so asking for a job several times
before its turn comes makes one turn of it. -/
def add (s : Schedule) (d : Designation) (due : Nat) : Schedule :=
  match s.get? d with
  | some earlier => if earlier ≤ due then s else s.insert d due
  | none => s.insert d due

def addAll (s : Schedule) (jobs : List Designation) (due : Nat) : Schedule :=
  jobs.foldl (fun s d => s.add d due) s

def addAfter (s : Schedule) (d : Designation) (now : Nat) (wait : Duration) : Schedule :=
  s.add d (now + Nat.min wait.millisRoundedUp longestWait)

/-- The jobs whose time has come, the longest waiting first. -/
def due (s : Schedule) (now : Nat) : List Designation :=
  let ready := s.entries.filter fun e => e.2 ≤ now
  (ready.mergeSort fun a b => a.2 ≤ b.2).map (·.1)

end Schedule

/-- Rests after failures. -/
structure Pace where
  /-- How many rests there were in a row. -/
  rests : Nat := 0
  lastFailure : Nat := 0
  restUntil : Nat := 0
  deriving DecidableEq, Repr, Inhabited

namespace Pace

def firstRest : Nat := 800

def longestRest : Nat := 30000

/-- How long after a failure the next one begins a row of its own, in milliseconds. -/
def forgetAfter : Nat := 120000

/-- How long the rest is after so many others: twice as long every time, up to the longest. -/
def restLength (rests : Nat) : Nat := Nat.min (firstRest * Nat.pow 2 (Nat.min rests 6)) longestRest

/-- Rests after a failure. -/
def rest (p : Pace) (now : Nat) : Pace :=
  let rests := if forgetAfter < now - p.lastFailure then 0 else p.rests
  { rests := rests + 1, lastFailure := now, restUntil := now + restLength rests }

/-- Whether it is still time to rest. -/
def resting (p : Pace) (now : Nat) : Bool := decide (now < p.restUntil)

end Pace

end TrainingJobs
