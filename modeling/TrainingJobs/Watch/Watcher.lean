/-
The watcher: it follows the objects of one kind, and turns what the platform sends into updates.

It lists the objects, then watches for what happens after the list. When a watch ends it opens the next one
at the last version it has seen. When a watch has expired, a list is refused or an object has no version, it
starts over with a list.

The watcher works in turns. A turn goes on until there is an object to hand on, a request has to be answered
first, something fails, or nothing more was sent; so that no kind of object keeps the others waiting.
-/
import TrainingJobs.Api.Request
import TrainingJobs.Naming
import TrainingJobs.Watch.Feed

set_option autoImplicit false

namespace TrainingJobs

/-- Where a watcher stands. -/
inductive WatcherState (α : Type) where
  | start
  /-- It has asked for a list, and this is the answer. -/
  | listing (answer : Option (List α))
  /-- It is going through a list. -/
  | filling (rest : List α)
  /-- It has everything up to a version. -/
  | listed (version : String)
  /-- It is watching what happens after a version. -/
  | watching (version : String)

/-- What a watcher follows. -/
structure WatchScope where
  resource : Resource
  /-- The namespace, if it is only one. -/
  ns : Option String := none
  /-- The labels of the objects, if it is not all of them. -/
  selector : Labels := ∅

/-- Why a turn is over. -/
inductive TurnEnd (α : Type) where
  | touched (object : α)
  | failed
  /-- A request has to be answered first. -/
  | asked
  | idle

/-- A turn of a watcher. -/
structure Turn (α : Type) where
  ending : TurnEnd α
  updates : List (WatchUpdate α) := []
  requests : List Request := []
  /-- Where the watcher stands after it. -/
  state : WatcherState α
  /-- The platform's side after it. -/
  feed : Feed α

namespace WatchScope

/-- The part of a query that narrows it to the labels. -/
def labelFields (s : WatchScope) : List (String × String) :=
  if s.selector.isEmpty then [] else [("labelSelector", s.selector.selectorText)]

/-- How many objects a list has at most. -/
def pageSize : Nat := 500

/-- How many seconds a watch stays open at most. -/
def watchSeconds : Nat := 290

def listRequest (s : WatchScope) : Except OperatorError Request :=
  Request.list s.resource s.ns (s.labelFields ++ [("limit", toString pageSize)])

def watchRequest (s : WatchScope) (version : String) : Except OperatorError Request :=
  Request.list s.resource s.ns
    ([("watch", "true"), ("timeoutSeconds", toString watchSeconds)] ++ s.labelFields ++
      [("allowWatchBookmarks", "true"), ("resourceVersion", version)])

end WatchScope

namespace Turn

variable {α : Type}

def before (u : WatchUpdate α) (t : Turn α) : Turn α := { t with updates := u :: t.updates }

end Turn

namespace WatcherState

variable {α : Type}

def askForList (scope : WatchScope) (feed : Feed α) : Turn α :=
  match scope.listRequest with
  | .ok request =>
    let (answer, feed) := feed.list
    { ending := .asked, requests := [request], state := .listing answer, feed := feed }
  | .error _ => { ending := .failed, state := .start, feed := feed }

def askForWatch (scope : WatchScope) (version : String) (feed : Feed α) : Turn α :=
  match scope.watchRequest version with
  | .ok request => { ending := .asked, requests := [request], state := .watching version, feed := feed.watch }
  | .error _ => { ending := .failed, state := .listed version, feed := feed }

/-- Goes through a list: hands on its next object, or goes on to the watch. -/
def fill (scope : WatchScope) (feed : Feed α) : List α → Turn α
  | [] => (askForWatch scope Feed.listVersion feed).before .relistDone
  | object :: rest =>
    { ending := .touched object, updates := [.relisted object], state := .filling rest, feed := feed }

variable [HasMetadata α]

def versionOf? (object : α) : Option String :=
  match (HasMetadata.metadata object).resourceVersion with
  | some version => if version.isEmpty then none else some version
  | none => none

/-- Goes through the events of a watch. Objects are handed on if `handsOn` says so. -/
def follow (scope : WatchScope) (handsOn : WatchUpdate α → Option α) (feed : Feed α) (ended : Bool)
    (version : String) : List (WatchEvent α) → Turn α
  | [] =>
    let feed := { feed with stream := some { events := [], ended := ended } }
    if ended then askForWatch scope version feed
    else { ending := .idle, state := .watching version, feed := feed }
  | event :: rest =>
    let rested : Feed α := { feed with stream := some { events := rest, ended := ended } }
    let heard (object : α) (u : WatchUpdate α) : Turn α :=
      match versionOf? object with
      -- A watch that ends after this object could not be taken up again.
      | none => { ending := .failed, state := .start, feed := feed.hangUp }
      | some version =>
        match handsOn u with
        | some object =>
          { ending := .touched object, updates := [u], state := .watching version, feed := rested }
        -- Nobody waits for this object, so the turn goes on.
        | none => (follow scope handsOn feed ended version rest).before u
    match event with
    | .added object | .modified object => heard object (.applied object)
    | .deleted object => heard object (.deleted object)
    | .bookmark version => follow scope handsOn feed ended version rest
    | .error code =>
      if code = Feed.expired then { ending := .failed, state := .start, feed := feed.hangUp }
      else { ending := .failed, state := .watching version, feed := rested }
    | .malformed => { ending := .failed, state := .watching version, feed := rested }

def turn (scope : WatchScope) (handsOn : WatchUpdate α → Option α) (feed : Feed α) : WatcherState α → Turn α
  | .start => (askForList scope feed).before .restarted
  | .listing (some objects) => fill scope feed objects
  | .listing none => { ending := .failed, state := .start, feed := feed }
  | .filling rest => fill scope feed rest
  | .listed version => askForWatch scope version feed
  | .watching version =>
    match feed.stream with
    | some stream => follow scope handsOn feed stream.ended version stream.events
    | none => askForWatch scope version feed

end WatcherState

end TrainingJobs
