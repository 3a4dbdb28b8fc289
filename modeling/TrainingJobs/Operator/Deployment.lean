/-
A deployed operator: the operator, and the platform's side of its watches.

The watches take turns, jobs before pods before services, until none of them has anything more to say. If one
fails, all of them rest; the passes over jobs that are due go on in the meantime.
-/
import TrainingJobs.Operator.Basic

set_option autoImplicit false

namespace TrainingJobs

/-- The platform's side of the watches of an operator. -/
structure Platform where
  jobs : Feed Job := {}
  pods : Feed Pod := {}
  services : Feed Service := {}
  requests : List Request := []

/-- An operator, and the platform's side of its watches. -/
structure Deployment (σ : Type) where
  operator : Operator σ
  platform : Platform

/-- How a turn, or a round of turns, went. -/
inductive Progress where
  | quiet
  /-- There may be more to come. -/
  | busy
  | failed
  deriving DecidableEq, Repr

namespace TurnEnd

def progress {α : Type} : TurnEnd α → Progress
  | touched _ | asked => .busy
  | failed => .failed
  | idle => .quiet

end TurnEnd

namespace WatcherState

/-- How many turns a watcher can take until it waits for something to be sent. -/
def backlog {α : Type} (feed : Feed α) : WatcherState α → Nat
  | start => feed.delivered.size + 4
  | listing answer => (answer.getD []).length + 3
  | filling rest => rest.length + 2
  | listed _ => 2
  | watching _ => ((feed.stream.map fun s => s.events.length).getD 0) + 3

end WatcherState

namespace Deployment

variable {σ : Type}

def jobsTurn (d : Deployment σ) (now : Nat) : Progress × Deployment σ :=
  let h := d.operator.jobs.listen WatchUpdate.present? d.platform.jobs now
  (h.turn.ending.progress,
    { operator := d.operator.hearJobs h now
      platform := { d.platform with
        jobs := h.turn.feed
        requests := d.platform.requests ++ h.turn.requests } })

def podsTurn (d : Deployment σ) (now : Nat) : Progress × Deployment σ :=
  let h := d.operator.pods.listen WatchUpdate.touched? d.platform.pods now
  (h.turn.ending.progress,
    { operator := d.operator.hearPods h now
      platform := { d.platform with
        pods := h.turn.feed
        requests := d.platform.requests ++ h.turn.requests } })

def servicesTurn (d : Deployment σ) (now : Nat) : Progress × Deployment σ :=
  let h := d.operator.services.listen WatchUpdate.touched? d.platform.services now
  (h.turn.ending.progress,
    { operator := d.operator.hearServices h now
      platform := { d.platform with
        services := h.turn.feed
        requests := d.platform.requests ++ h.turn.requests } })

/-- Watches take turns, until one fails. -/
def turns (now : Nat) : List (Deployment σ → Nat → Progress × Deployment σ) → Deployment σ →
    Progress × Deployment σ
  | [], d => (.quiet, d)
  | turn :: rest, d =>
    match turn d now with
    | (.failed, d) => (.failed, d)
    | (.busy, d) =>
      match turns now rest d with
      | (.quiet, d) => (.busy, d)
      | r => r
    | (.quiet, d) => turns now rest d

def round (d : Deployment σ) (now : Nat) : Progress × Deployment σ :=
  turns now [jobsTurn, podsTurn, servicesTurn] d

/-- All watches rest. -/
def rest (d : Deployment σ) (now : Nat) : Deployment σ :=
  { d with operator := { d.operator with pace := d.operator.pace.rest now } }

/-- The watches take at most so many rounds of turns. -/
def rounds (now : Nat) : Nat → Deployment σ → Deployment σ
  | 0, d => d
  | n + 1, d =>
    match d.round now with
    | (.quiet, d) => d
    | (.busy, d) => rounds now n d
    | (.failed, d) => d.rest now

/-- How many rounds it can take until every watch waits for something to be sent. -/
def backlog (d : Deployment σ) : Nat :=
  d.operator.jobs.state.backlog d.platform.jobs + d.operator.pods.state.backlog d.platform.pods +
    d.operator.services.state.backlog d.platform.services

/-- The watches take turns until none of them has anything more to say, unless it is time to rest. -/
def hear (d : Deployment σ) (now : Nat) : Deployment σ :=
  if d.operator.pace.resting now then d else rounds now d.backlog d

/-- All known jobs are due, if it is time for that and not for a rest. -/
def resync (d : Deployment σ) (now : Nat) : Deployment σ :=
  if d.operator.pace.resting now then d else { d with operator := d.operator.resync now }

/-- Does all there is to do at an instant. -/
def settle [ObjectStore σ] (d : Deployment σ) (clock : Timestamp) (now : Nat) : Deployment σ :=
  let d := (d.hear now).resync now
  { d with operator := d.operator.lookAtDue clock now }

end Deployment

end TrainingJobs
