/-
Reading JSON text.

The grammar is that of RFC 8259, strictly: no comment, no trailing comma, no leading zero, nothing after the
value but blanks. What is well formed may still go beyond a limit: an array or object that nests deeper than
the caller says, a number beyond the range of a double, a string with one half of a surrogate pair, an object
with such a string for a name. A value of that kind becomes `unreadable`, and the reader goes on behind it;
whether that matters is up to who asks for the value.

Nesting depth is also what the recursion runs on: a value of depth `d + 1` is read with the reader of values
of depth `d`, and what nests deeper is passed over. The loops over items, members and characters run on the
length of what is left to read, since every round takes at least one character.
-/
import TrainingJobs.Json.Basic
import TrainingJobs.Json.Magnitude

set_option autoImplicit false

namespace TrainingJobs.Json

/-- A reader takes a value off the front of the text, or refuses. -/
abbrev Reader (α : Type) := List Char → Option (α × List Char)

/-- What was taken off the front of a text when `rest` is left of it. -/
def taken (s rest : List Char) : String := String.ofList (s.take (s.length - rest.length))

def skipBlanks (s : List Char) : List Char :=
  s.dropWhile fun c => c == ' ' || c == '\t' || c == '\n' || c == '\r'

/-- Takes exactly these characters. -/
def expect? : List Char → List Char → Option (List Char)
  | [], s => some s
  | c :: cs, d :: s => if c = d then expect? cs s else none
  | _ :: _, [] => none

/-! ## Strings -/

def hexValue? (c : Char) : Option Nat :=
  if c.isDigit then some (c.toNat - 48)
  else if 97 ≤ c.toNat ∧ c.toNat ≤ 102 then some (c.toNat - 87)
  else if 65 ≤ c.toNat ∧ c.toNat ≤ 70 then some (c.toNat - 55)
  else none

def readHex4? : Reader Nat
  | a :: b :: c :: d :: rest => do
    let a ← hexValue? a
    let b ← hexValue? b
    let c ← hexValue? c
    let d ← hexValue? d
    some (((a * 16 + b) * 16 + c) * 16 + d, rest)
  | _ => none

/-- Whether a code unit is the first half of a pair. -/
def isHighHalf (unit : Nat) : Bool := decide (0xD800 ≤ unit) && decide (unit ≤ 0xDBFF)

/-- Whether a code unit is the second half of a pair. -/
def isLowHalf (unit : Nat) : Bool := decide (0xDC00 ≤ unit) && decide (unit ≤ 0xDFFF)

/-- The second half of a pair, if that comes next. -/
def readLowHalf? (s : List Char) : Option (Nat × List Char) := do
  let (unit, s) ← readHex4? (← expect? ['\\', 'u'] s)
  if isLowHalf unit then some (unit, s) else none

/-- What follows the backslash and the `u` of an escape: a code unit, or two that form a pair. One half of a
pair is no character. -/
def readUnicodeEscape? (s : List Char) : Option (Option Char × List Char) := do
  let (unit, s) ← readHex4? s
  if isLowHalf unit then some (none, s)
  else if isHighHalf unit then
    match readLowHalf? s with
    | some (low, s) => some (some (Char.ofNat (0x10000 + (unit - 0xD800) * 0x400 + (low - 0xDC00))), s)
    | none => some (none, s)
  else some (some (Char.ofNat unit), s)

/-- What follows the backslash of an escape: the character that is meant, if it is one. -/
def readEscape? : Reader (Option Char)
  | '"' :: s => some (some '"', s)
  | '\\' :: s => some (some '\\', s)
  | '/' :: s => some (some '/', s)
  | 'b' :: s => some (some (Char.ofNat 8), s)
  | 'f' :: s => some (some (Char.ofNat 12), s)
  | 'n' :: s => some (some '\n', s)
  | 'r' :: s => some (some '\r', s)
  | 't' :: s => some (some '\t', s)
  | 'u' :: s => readUnicodeEscape? s
  | _ => none

/-- Reads the rest of a string whose characters so far are `acc`, the last first; nothing, if one of them was
none. -/
def readChars? : Nat → Option (List Char) → Reader (Option (List Char))
  | 0, _, _ => none
  | _ + 1, _, [] => none
  | _ + 1, acc, '"' :: s => some (acc.map List.reverse, s)
  | fuel + 1, acc, '\\' :: s =>
    match readEscape? s with
    | some (some c, s) => readChars? fuel (acc.map (c :: ·)) s
    | some (none, s) => readChars? fuel none s
    | none => none
  | fuel + 1, acc, c :: s =>
    if c.toNat < 0x20 then none else readChars? fuel (acc.map (c :: ·)) s

/-- What follows the opening quotation mark of a string: the text, if it is one. -/
def readString? (s : List Char) : Option (Option String × List Char) :=
  (readChars? (s.length + 1) (some []) s).map fun r => (r.1.map String.ofList, r.2)

/-! ## Numbers -/

/-- A non-empty run of digits. -/
def readRun? (s : List Char) : Option (List Char × List Char) :=
  let digits := s.takeWhile Char.isDigit
  if digits.isEmpty then none else some (digits, s.dropWhile Char.isDigit)

/-- The digits before the point: no zero in front of another digit. -/
def readWhole? (s : List Char) : Option (List Char × List Char) := do
  let (digits, rest) ← readRun? s
  if digits.head? = some '0' ∧ digits.length ≠ 1 then none else some (digits, rest)

/-- The digits after the point, where there is one. -/
def readFractionDigits? (s : List Char) : Option (List Char × List Char) :=
  match s with
  | '.' :: rest => readRun? rest
  | _ => some ([], s)

/-- The exponent, where there is one. -/
def readExponent? (s : List Char) : Option (Option Int × List Char) :=
  match s with
  | e :: rest =>
    if e = 'e' ∨ e = 'E' then
      let (negative, rest) := match rest with
        | '+' :: r => (false, r)
        | '-' :: r => (true, r)
        | r => (false, r)
      (readRun? rest).bind fun (digits, rest) =>
        (Text.readDigits? 0 digits).map fun n => (some (if negative then -(n : Int) else n), rest)
    else some (none, s)
  | [] => some (none, s)

/-- A number. -/
def readNumber? (s : List Char) : Option (Json × List Char) := do
  let negative := s.head? = some '-'
  let (whole, rest) ← readWhole? (if negative then s.drop 1 else s)
  let (fraction, rest) ← readFractionDigits? rest
  let (exponent, rest) ← readExponent? rest
  if !inDoubleRange whole fraction (exponent.getD 0) then some (.unreadable (taken s rest), rest)
  else
    let coefficient ← Text.readDigits? 0 whole
    if fraction.isEmpty ∧ exponent.isNone ∧ !(negative ∧ coefficient = 0) then
      some (.int (if negative then -(coefficient : Int) else coefficient), rest)
    else some (.decimal (taken s rest), rest)

/-! ## Arrays, objects, values -/

/-- Items with commas between, up to and with the closing character. At least one item is read. -/
def readList? {α : Type} (item : Reader α) (close : Char) : Nat → Reader (List α)
  | 0, _ => none
  | fuel + 1, s =>
    match item (skipBlanks s) with
    | none => none
    | some (x, s) =>
      match skipBlanks s with
      | c :: s =>
        if c = close then some ([x], s)
        else if c = ',' then (readList? item close fuel s).map fun r => (x :: r.1, r.2)
        else none
      | [] => none

/-- What follows the opening character of an array or object: nothing but the closing one, or items. -/
def readBody? {α : Type} (item : Reader α) (close : Char) (s : List Char) : Option (List α × List Char) :=
  match skipBlanks s with
  | c :: rest => if c = close then some ([], rest) else readList? item close (s.length + 1) s
  | [] => none

/-- A member of an object, its value read by `value`, and its name, if that is a text. -/
def readMember? {α : Type} (value : Reader α) : Reader (Option String × α)
  | '"' :: s => do
    let (name, s) ← readString? s
    let s ← expect? [':'] (skipBlanks s)
    let (v, s) ← value (skipBlanks s)
    some ((name, v), s)
  | _ => none

/-- A value without arrays and objects in it. -/
def readScalar? (s : List Char) : Option (Json × List Char) :=
  match s with
  | '"' :: rest =>
    (readString? rest).map fun
      | (some text, rest) => (.str text, rest)
      | (none, rest) => (.unreadable (taken s rest), rest)
  | 'n' :: rest => (expect? ['u', 'l', 'l'] rest).map fun rest => (.null, rest)
  | 't' :: rest => (expect? ['r', 'u', 'e'] rest).map fun rest => (.bool true, rest)
  | 'f' :: rest => (expect? ['a', 'l', 's', 'e'] rest).map fun rest => (.bool false, rest)
  | s => readNumber? s

/-- Passes over a value in which arrays and objects nest less than `bound` deep. -/
def passOver? : Nat → Reader Unit
  | 0, _ => none
  | bound + 1, s =>
    match s with
    | c :: rest =>
      if c = '[' then (readBody? (passOver? bound) ']' rest).map fun r => ((), r.2)
      else if c = Char.ofNat 0x7B then
        (readBody? (readMember? (passOver? bound)) (Char.ofNat 0x7D) rest).map fun r => ((), r.2)
      else (readScalar? s).map fun r => ((), r.2)
    | [] => none

/-- An object of members, if all names are texts. -/
def objectOf? (members : List (Option String × Json)) : Option Json :=
  (members.mapM fun (m : Option String × Json) => m.1.map (·, m.2)).map .obj

/-- A value; what nests deeper than `depth` is passed over. -/
def readValue? : Nat → Reader Json
  | 0, s =>
    if s.head? = some '[' ∨ s.head? = some (Char.ofNat 0x7B) then
      (passOver? (s.length + 1) s).map fun r => (.unreadable (taken s r.2), r.2)
    else readScalar? s
  | depth + 1, s =>
    match s with
    | c :: rest =>
      if c = '[' then (readBody? (readValue? depth) ']' rest).map fun r => (.arr r.1, r.2)
      else if c = Char.ofNat 0x7B then
        (readBody? (readMember? (readValue? depth)) (Char.ofNat 0x7D) rest).map fun r =>
          ((objectOf? r.1).getD (.unreadable (taken s r.2)), r.2)
      else readScalar? s
    | [] => none

/-- The value that the text holds; what nests deeper than `depth` in it is unreadable. -/
def parse? (depth : Nat) (text : String) : Option Json :=
  match readValue? depth (skipBlanks text.toList) with
  | some (value, rest) => if (skipBlanks rest).isEmpty then some value else none
  | none => none

end TrainingJobs.Json
