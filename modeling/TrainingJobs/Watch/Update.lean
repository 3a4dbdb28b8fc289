/-
What is heard of a kind of object: the events of a watch, and the updates they amount to.

A watch sends one event after another; what is not of the form of an event is heard as a malformed one. An
update is what a follower of the watch goes by: it also says when all objects are listed anew, which a watch
on its own does not.
-/
import TrainingJobs.Api.Response

set_option autoImplicit false

namespace TrainingJobs

/-- What a follower learns of the objects of a kind. -/
inductive WatchUpdate (α : Type) where
  /-- The objects are going to be listed anew. -/
  | restarted
  /-- The list has this object. -/
  | relisted (object : α)
  /-- The list has no more objects than those. -/
  | relistDone
  /-- The object has appeared or was changed. -/
  | applied (object : α)
  /-- The object has vanished. -/
  | deleted (object : α)
  deriving DecidableEq, Repr

/-- What a watch sends. -/
inductive WatchEvent (α : Type) where
  | added (object : α)
  | modified (object : α)
  /-- The object has vanished; this was its last form. -/
  | deleted (object : α)
  /-- Everything up to this version was sent. -/
  | bookmark (version : String)
  | error (code : Nat)
  | malformed
  deriving DecidableEq, Repr

namespace WatchUpdate

/-- The object that is there after the update. -/
def present? {α : Type} : WatchUpdate α → Option α
  | relisted object | applied object => some object
  | restarted | relistDone | deleted _ => none

/-- The object that the update is about, be it there or not. -/
def touched? {α : Type} : WatchUpdate α → Option α
  | relisted object | applied object | deleted object => some object
  | restarted | relistDone => none

end WatchUpdate

namespace WatchEvent

/-- Reads the version that a bookmark marks. -/
def decodeBookmark (j : Json) : Option String := do
  let m ← j.members?
  let _ ← Json.required m "apiVersion" Json.decodeString
  let _ ← Json.required m "kind" Json.decodeString
  Json.required m "metadata" (fun j => do
    let m ← j.ownMembers? ["resourceVersion", "annotations"] 1
    let _ ← Json.defaulted m "annotations" (Json.decodeDict Json.decodeString) ∅
    Json.required m "resourceVersion" Json.decodeString)

/-- Reads an event that is well formed. -/
def decode? {α : Type} (object : Json.Decoder α) (j : Json) : Option (WatchEvent α) := do
  let m ← j.membersOnce? ["type", "object"]
  match ← Json.required m "type" Json.decodeString with
  | "ADDED" => (Json.required m "object" object).map added
  | "MODIFIED" => (Json.required m "object" object).map modified
  | "DELETED" => (Json.required m "object" object).map deleted
  | "BOOKMARK" => (Json.required m "object" decodeBookmark).map bookmark
  | "ERROR" => (Json.required m "object" Response.decodeFailure).map fun failure => error failure.code
  | _ => none

def decode {α : Type} (object : Json.Decoder α) (j : Json) : WatchEvent α := (decode? object j).getD malformed

end WatchEvent

end TrainingJobs
