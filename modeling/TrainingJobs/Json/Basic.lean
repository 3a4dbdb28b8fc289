/-
JSON values and how they are written.

An object is the list of its members *as they stand in the text*: a reader of an object may refuse a name
that occurs twice, or take the later value, and both kinds of reader exist here, so the value has to keep
what they disagree about. For the same reason a number that is not written as an integer is kept as its
text: nothing in the operator's objects is such a number, and every reader of an integer refuses it.

There are values that are well formed and still cannot be read, because they go beyond a limit of the reader.
Where such a value stands under a name that nobody asks for, it is passed over like any other. So it has a
place among the values, and every reader of a value refuses it.
-/

set_option autoImplicit false

namespace TrainingJobs

inductive Json where
  | null
  | bool (b : Bool)
  /-- A number written without fraction and exponent. -/
  | int (i : Int)
  /-- Any other number, as it is written. -/
  | decimal (text : String)
  | str (s : String)
  | arr (items : List Json)
  /-- An object, its members in the order of the text. -/
  | obj (members : List (String × Json))
  /-- A value that can be passed over but not read, as it is written. -/
  | unreadable (text : String)
  deriving Repr, Inhabited

namespace Json

/-- One character inside a string: quotation mark, backslash and control characters are escaped. -/
def escapedChar (c : Char) : List Char :=
  if c = '"' then ['\\', '"']
  else if c = '\\' then ['\\', '\\']
  else if c = '\n' then ['\\', 'n']
  else if c = '\r' then ['\\', 'r']
  else if c = '\t' then ['\\', 't']
  else if c.toNat < 0x20 then
    ['\\', 'u', '0', '0', Nat.digitChar (c.toNat / 16), Nat.digitChar (c.toNat % 16)]
  else [c]

def renderString (s : String) : String :=
  String.ofList ('"' :: s.toList.flatMap escapedChar ++ ['"'])

mutual

def render : Json → String
  | null => "null"
  | bool b => if b then "true" else "false"
  | int i => toString i
  | decimal text => text
  | str s => renderString s
  | arr items => "[" ++ renderItems items ++ "]"
  | obj members => String.singleton (Char.ofNat 0x7B) ++ renderMembers members
      ++ String.singleton (Char.ofNat 0x7D)
  | unreadable text => text

def renderItems : List Json → String
  | [] => ""
  | [item] => item.render
  | item :: rest => item.render ++ "," ++ renderItems rest

def renderMembers : List (String × Json) → String
  | [] => ""
  | [(name, value)] => renderString name ++ ":" ++ value.render
  | (name, value) :: rest => renderString name ++ ":" ++ value.render ++ "," ++ renderMembers rest

end

mutual

/-- Whether all of the value can be read. -/
def readable : Json → Bool
  | null | bool _ | int _ | decimal _ | str _ => true
  | arr items => readableItems items
  | obj members => readableMembers members
  | unreadable _ => false

def readableItems : List Json → Bool
  | [] => true
  | item :: rest => item.readable && readableItems rest

def readableMembers : List (String × Json) → Bool
  | [] => true
  | (_, value) :: rest => value.readable && readableMembers rest

end

/-- An object of the given members, those without a value left out. -/
def ofFields (fields : List (String × Option Json)) : Json :=
  obj (fields.filterMap fun f => f.2.map fun v => (f.1, v))

def members? : Json → Option (List (String × Json))
  | obj members => some members
  | _ => none

/-- The member of that name, of several the last. -/
def get? (j : Json) (name : String) : Option Json :=
  match j with
  | obj members => (members.reverse.find? fun m => m.1 == name).map (·.2)
  | _ => none

end Json

end TrainingJobs
