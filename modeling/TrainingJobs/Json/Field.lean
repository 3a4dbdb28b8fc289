/-
Reading the members of JSON objects.

Two kinds of objects are read. The platform's own objects take the last value of a name that is repeated and
treat null as "missing". The operator's objects refuse a repeated name and refuse null where a field has a
default; only a field without default may be null. They may also be given as an array of the values of their
fields, in order. What both share: a name they do not know is passed over, so that its value need not even be
readable, and every value given for a name they know has to be well formed, also one that is not taken.

An object that takes in the fields of another one beside its own has no names to pass over: it looks for them
among all members, and so has to read them.
-/
import TrainingJobs.Dict
import TrainingJobs.Json.Basic
import TrainingJobs.Time.Rfc3339

set_option autoImplicit false

namespace TrainingJobs.Json

/-- A decoder reads a value of the domain from a JSON value, or refuses. -/
abbrev Decoder (α : Type) := Json → Option α

/-! ## Scalars -/

def decodeString : Decoder String
  | str s => some s
  | _ => none

def decodeBool : Decoder Bool
  | bool b => some b
  | _ => none

/-- Whether a signed number of so many bits can be the integer: one from `-2^(bits-1)` up to and without
`2^(bits-1)`. -/
def Fits (bits : Nat) (i : Int) : Prop := -(Nat.pow 2 (bits - 1) : Int) ≤ i ∧ i < (Nat.pow 2 (bits - 1) : Int)

instance (bits : Nat) (i : Int) : Decidable (Fits bits i) := inferInstanceAs (Decidable (_ ∧ _))

/-- An integer that fits into so many bits. -/
def decodeInt (bits : Nat) : Decoder Int
  | int i => if Fits bits i then some i else none
  | _ => none

/-- A number of 32 bits, for those that are added up. -/
def decodeInt32 : Decoder Int32 := fun j => (decodeInt 32 j).map Int32.ofInt

/-- A natural number below `2^bits`. -/
def decodeNat (bits : Nat) : Decoder Nat
  | int i =>
    let bound : Int := Nat.pow 2 bits
    if 0 ≤ i ∧ i < bound then some i.toNat else none
  | _ => none

def decodeTime : Decoder Timestamp
  | str s => Timestamp.parse? s
  | _ => none

/-- One of the named values. The name may also be given as that of the only member of an object, whose value
is null. -/
def decodeName {α : Type} (names : List (String × α)) : Decoder α
  | str s | obj [(s, null)] => names.lookup s
  | _ => none

def decodeList {α : Type} (item : Decoder α) : Decoder (List α)
  | arr items => items.mapM item
  | _ => none

/-- A map from strings: of a repeated key the last value stays. -/
def decodeDict {α : Type} (value : Decoder α) : Decoder (Dict String α)
  | obj members => (members.mapM fun m => (value m.2).map fun v => (m.1, v)).map Dict.ofList
  | _ => none

/-! ## Members -/

/-- Every value given for a name, decoded; the last of them. -/
def lastOf {α : Type} (members : List (String × Json)) (name : String) (value : Decoder α) :
    Option (Option α) :=
  ((members.filter fun m => m.1 == name).mapM fun m => value m.2).map List.getLast?

/-- A decoder that also takes null, for nothing. -/
def orNull {α : Type} (value : Decoder α) : Decoder (Option α)
  | null => some none
  | j => (value j).map some

/-- A member that has to be there. -/
def required {α : Type} (members : List (String × Json)) (name : String) (value : Decoder α) : Option α :=
  (lastOf members name value).bind id

/-- A member that may be missing or null. -/
def optional {α : Type} (members : List (String × Json)) (name : String) (value : Decoder α) :
    Option (Option α) :=
  (lastOf members name (orNull value)).map Option.join

/-- A member that may be missing, but not null. -/
def defaulted {α : Type} (members : List (String × Json)) (name : String) (value : Decoder α) (default : α) :
    Option α :=
  (lastOf members name value).map fun v => v.getD default

/-- A member for which a default stands when it is missing or null. -/
def filled {α : Type} (members : List (String × Json)) (name : String) (value : Decoder α) (default : α) :
    Option α :=
  (optional members name value).map fun v => v.getD default

/-- Whether no name of `known` is given twice. -/
def namesOnce (known : List String) (members : List (String × Json)) : Bool :=
  known.all fun name => (members.filter fun m => m.1 == name).length ≤ 1

/-- The members of an object, if none of the known names is given twice. -/
def membersOnce? (known : List String) (j : Json) : Option (List (String × Json)) :=
  (members? j).filter (namesOnce known)

/-- The members of an object of the operator's own kinds, which has fields of the known names. Given as an
array, the first `least` fields have to be there. -/
def ownMembers? (known : List String) (least : Nat) : Json → Option (List (String × Json))
  | arr items => if least ≤ items.length ∧ items.length ≤ known.length then some (known.zip items) else none
  | j => membersOnce? known j

/-- The members of an object of the operator's own kinds that takes in fields of another object. Only the
values of its `own` fields are not read before it is known what they are. -/
def mixedMembers? (own takenIn : List String) (j : Json) : Option (List (String × Json)) :=
  (membersOnce? (own ++ takenIn) j).filter fun m => m.all fun (name, value) => own.contains name || value.readable

/-! ## Writing -/

/-- A map as an object, in the order of its keys. -/
def ofDict {α : Type} (value : α → Json) (d : Dict String α) : Json :=
  obj (d.entries.map fun e => (e.1, value e.2))

def ofList {α : Type} (value : α → Json) (l : List α) : Json := arr (l.map value)

def ofStrings (d : Dict String String) : Json := ofDict str d

def ofInt32 (n : Int32) : Json := int n.toInt

/-- An instant, cut to the second. -/
def ofTime (t : Timestamp) : Json := str t.render

/-- A string that is left out when it is empty. -/
def unlessEmpty (s : String) : Option Json := if s.isEmpty then none else some (str s)

end TrainingJobs.Json
