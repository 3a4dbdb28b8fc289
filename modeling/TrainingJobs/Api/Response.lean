/-
Answers of the platform, and how they are read.

A code from 400 up says that the request was refused; the body then says why, unless it is not of the form
that it should have, in which case it is quoted as it is. Any other answer carries the object that was asked
for. Where an object is deleted, the answer may also be a report on the deletion.
-/
import TrainingJobs.Error
import TrainingJobs.Json.Field
import TrainingJobs.Json.Reader

set_option autoImplicit false

namespace TrainingJobs

structure Response where
  code : Nat
  text : String
  deriving DecidableEq, Repr, Inhabited

namespace Response

/-- What the codes of refusals stand for. -/
def phrases : List (Nat × String) :=
  [(400, "Bad Request"), (401, "Unauthorized"), (402, "Payment Required"), (403, "Forbidden"),
    (404, "Not Found"), (405, "Method Not Allowed"), (406, "Not Acceptable"),
    (407, "Proxy Authentication Required"), (408, "Request Timeout"), (409, "Conflict"), (410, "Gone"),
    (411, "Length Required"), (412, "Precondition Failed"), (413, "Payload Too Large"),
    (414, "URI Too Long"), (415, "Unsupported Media Type"), (416, "Range Not Satisfiable"),
    (417, "Expectation Failed"), (418, "I'm a teapot"), (421, "Misdirected Request"),
    (422, "Unprocessable Entity"), (423, "Locked"), (424, "Failed Dependency"), (425, "Too Early"),
    (426, "Upgrade Required"), (428, "Precondition Required"), (429, "Too Many Requests"),
    (431, "Request Header Fields Too Large"), (451, "Unavailable For Legal Reasons"),
    (500, "Internal Server Error"), (501, "Not Implemented"), (502, "Bad Gateway"),
    (503, "Service Unavailable"), (504, "Gateway Timeout"), (505, "HTTP Version Not Supported"),
    (506, "Variant Also Negotiates"), (507, "Insufficient Storage"), (508, "Loop Detected"),
    (510, "Not Extended"), (511, "Network Authentication Required")]

def codeText (code : Nat) : String :=
  toString code ++ " " ++ (phrases.lookup code).getD "<unknown status code>"

/-- How deep the body of an answer may nest. -/
def depthLimit : Nat := 127

/-- The body as JSON. -/
def json? (r : Response) : Option Json := Json.parse? depthLimit r.text

def refused (r : Response) : Bool := decide (400 ≤ r.code) && decide (r.code < 600)

def decodeFailure (j : Json) : Option ApiFailure := do
  let m ← j.ownMembers? ["status", "message", "reason", "code"] 4
  some {
    status := ← Json.required m "status" Json.decodeString
    message := ← Json.defaulted m "message" Json.decodeString ""
    reason := ← Json.defaulted m "reason" Json.decodeString ""
    code := ← Json.required m "code" (Json.decodeNat 16) }

def failure? (r : Response) : Option ApiFailure :=
  if r.refused then
    some ((r.json?.bind decodeFailure).getD {
      status := codeText r.code
      message := Text.quoted r.text
      reason := "Failed to parse error data"
      code := r.code })
  else none

/-- The object that was asked for. -/
def object {α : Type} (decode : Json.Decoder α) (r : Response) : Except OperatorError α :=
  match r.failure? with
  | some failure => .error (.api failure)
  | none =>
    match r.json?.bind decode with
    | some a => .ok a
    | none => .error .exchange

/-- The object that was asked for, or nothing if there is none of that name. -/
def objectIfAny {α : Type} (decode : Json.Decoder α) (r : Response) : Except OperatorError (Option α) :=
  match r.object decode with
  | .ok a => .ok (some a)
  | .error (.api failure) => if failure.reason = "NotFound" then .ok none else .error (.api failure)
  | .error e => .error e

/-- Reads what is said about a list beside its items. -/
def decodeListMetadata (j : Json) : Option Unit := do
  let m ← j.members?
  let _ ← Json.optional m "continue" Json.decodeString
  let _ ← Json.optional m "remainingItemCount" (Json.decodeInt 64)
  let _ ← Json.optional m "resourceVersion" Json.decodeString
  let _ ← Json.optional m "selfLink" Json.decodeString
  some ()

/-- Reads the items of a list. They have to be there, but may be null. -/
def decodeItems {α : Type} (decode : Json.Decoder α) (j : Json) : Option (List α) := do
  let m ← j.mixedMembers? ["metadata", "items"] []
  let _ ← Json.defaulted m "metadata" decodeListMetadata ()
  let items ← Json.required m "items" (Json.orNull (Json.decodeList decode))
  some (items.getD [])

/-- The objects that were asked for. -/
def objects {α : Type} (decode : Json.Decoder α) (r : Response) : Except OperatorError (List α) :=
  r.object (decodeItems decode)

def decodeCause (j : Json) : Option Unit := do
  let m ← j.ownMembers? ["reason", "message", "field"] 0
  let _ ← Json.defaulted m "reason" Json.decodeString ""
  let _ ← Json.defaulted m "message" Json.decodeString ""
  let _ ← Json.defaulted m "field" Json.decodeString ""
  some ()

def decodeDetails (j : Json) : Option Unit := do
  let m ← j.ownMembers? ["name", "group", "kind", "uid", "causes", "retryAfterSeconds"] 0
  let _ ← Json.defaulted m "name" Json.decodeString ""
  let _ ← Json.defaulted m "group" Json.decodeString ""
  let _ ← Json.defaulted m "kind" Json.decodeString ""
  let _ ← Json.defaulted m "uid" Json.decodeString ""
  let _ ← Json.defaulted m "causes" (Json.decodeList decodeCause) []
  let _ ← Json.defaulted m "retryAfterSeconds" (Json.decodeNat 32) 0
  some ()

def decodeReport (j : Json) : Option Unit := do
  let m ← j.ownMembers? ["status", "code", "message", "reason", "details"] 0
  let _ ← Json.optional m "status" (Json.decodeName [("Success", true), ("Failure", false)])
  let _ ← Json.defaulted m "code" (Json.decodeNat 16) 0
  let _ ← Json.defaulted m "message" Json.decodeString ""
  let _ ← Json.defaulted m "reason" Json.decodeString ""
  let _ ← Json.optional m "details" decodeDetails
  some ()

/-- Whether the value names itself a report. -/
def isReport (j : Json) : Bool :=
  match j.get? "kind" with
  | some (.str kind) => kind == "Status"
  | _ => false

/-- Reads the answer to a deletion: a report, or the object that is going. All of it has to be read to tell
which of the two it is. -/
def decodeDeletion {α : Type} (decode : Json.Decoder α) (j : Json) : Option Unit :=
  if !j.readable then none
  else if isReport j then decodeReport j
  else (decode j).map fun _ => ()

/-- Whether the deletion was accepted. -/
def deletion {α : Type} (decode : Json.Decoder α) (r : Response) : Except OperatorError Unit :=
  r.object (decodeDeletion decode)

end Response

end TrainingJobs
