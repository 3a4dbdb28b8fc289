/-
Requests to the platform, and the addresses of what they are about.

Every kind of object is a collection under a group and a version, in one namespace or in all of them; an
object is a member of its collection, and some have parts that are addressed on their own. A request names
its target as text; a name goes into it as it is, so a name with a character that no target may have makes a
request that cannot be sent.
-/
import TrainingJobs.Event
import TrainingJobs.Object.PodGroup
import TrainingJobs.Text.Query

set_option autoImplicit false

namespace TrainingJobs

/-- A kind of object, as the platform serves it. -/
structure Resource where
  /-- The API group; empty for the kinds that the platform itself is made of. -/
  group : String
  version : String
  /-- What the collection is called. -/
  plural : String
  deriving DecidableEq, Repr

namespace Resource

def jobs : Resource := ⟨Job.group, Job.version, Job.plural⟩

def pods : Resource := ⟨"", "v1", "pods"⟩

def services : Resource := ⟨"", "v1", "services"⟩

def podGroups : Resource := ⟨PodGroup.group, PodGroup.version, PodGroup.plural⟩

def events : Resource := ⟨"events.k8s.io", "v1", "events"⟩

/-- Where the group is served. -/
def root (r : Resource) : String :=
  if r.group.isEmpty then "/api/" ++ r.version else "/apis/" ++ r.group ++ "/" ++ r.version

/-- The collection in a namespace, or in all. -/
def collection (r : Resource) : Option String → String
  | some ns => r.root ++ "/namespaces/" ++ ns ++ "/" ++ r.plural
  | none => r.root ++ "/" ++ r.plural

/-- One member of the collection. -/
def member (r : Resource) (a : Address) : String := r.collection (some a.ns) ++ "/" ++ a.name

end Resource

inductive Method where
  | get
  | post
  | patch
  | delete
  deriving DecidableEq, Repr, Inhabited

def Method.name : Method → String
  | get => "GET"
  | post => "POST"
  | patch => "PATCH"
  | delete => "DELETE"

structure Request where
  method : Method
  path : String
  query : Option String
  /-- The form of the body, if one is named. -/
  contentType : Option String
  body : Option Json
  deriving Inhabited

namespace Request

/-- Whether the character is none of the controls and blanks of ASCII. -/
def isVisible (c : Char) : Bool := 0x21 ≤ c.toNat && c.toNat ≠ 0x7F

/-- Whether the character may stand in a path: the visible ones, without some that have to be encoded. -/
def allowedInPath (c : Char) : Bool := isVisible c && !(['#', '<', '>', '?', Char.ofNat 0x60].contains c)

/-- Whether the character may stand in a query. -/
def allowedInQuery (c : Char) : Bool := isVisible c && !(['"', '#', '<', '>'].contains c)

/-- The path and the query of a target. The query starts at the first question mark, and what follows a
number sign is not sent. -/
def splitTarget? (target : String) : Option (String × Option String) :=
  let sent := target.toList.takeWhile (· ≠ '#')
  let path := sent.takeWhile (· ≠ '?')
  let rest := sent.dropWhile (· ≠ '?')
  if path.all allowedInPath && (rest.drop 1).all allowedInQuery then
    some (String.ofList path, if rest.isEmpty then none else some (String.ofList (rest.drop 1)))
  else none

/-- How many bytes a target has at most, with what of it is not sent. -/
def longestTarget : Nat := 65534

/-- A request for a target, if there can be one. -/
def make (method : Method) (target : String) (contentType : Option String) (body : Option Json) :
    Except OperatorError Request :=
  if longestTarget < target.utf8ByteSize then .error .exchange
  else
    match splitTarget? target with
    | some (path, query) => .ok ⟨method, path, query, contentType, body⟩
    | none => .error .exchange

def jsonType : String := "application/json"

/-- The form of a change that is merged into an object. -/
def mergePatchType : String := "application/merge-patch+json"

def read (r : Resource) (a : Address) : Except OperatorError Request :=
  if a.name.isEmpty then .error .exchange else make .get (r.member a) none none

/-- Lists the objects of a collection, with fields that narrow the list. -/
def list (r : Resource) (ns : Option String) (fields : List (String × String)) : Except OperatorError Request :=
  make .get (r.collection ns ++ "?" ++ Text.queryFields fields) none none

def create (r : Resource) (ns : String) (object : Json) : Except OperatorError Request :=
  make .post (r.collection (some ns) ++ "?") (some jsonType) (some object)

/-- Merges a change into an object, or into one part of it. -/
def merge (r : Resource) (a : Address) (part : String) (change : Json) : Except OperatorError Request :=
  if a.name.isEmpty then .error .exchange
  else make .patch (r.member a ++ part ++ "?") (some mergePatchType) (some change)

/-- Deletes an object, in the way that the options say. -/
def delete (r : Resource) (a : Address) (options : List (String × Json)) : Except OperatorError Request :=
  if a.name.isEmpty then .error .exchange
  else make .delete (r.member a ++ "?") (some jsonType) (some (.obj options))

def summary (r : Request) : String :=
  r.method.name ++ " " ++ r.path ++ (match r.query with | some q => "?" ++ q | none => "")

end Request

end TrainingJobs
