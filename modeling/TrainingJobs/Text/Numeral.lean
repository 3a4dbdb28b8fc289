/-
Numerals: how a text is read as a natural number and how an integer is written.

A numeral is a non-empty run of ASCII digits, leading zeros allowed, after at most one plus sign. There is
no other sign, no separator and no blank. Where a number has a largest value, a numeral beyond it is refused
as if it were malformed.
-/

set_option autoImplicit false

namespace TrainingJobs.Text

def digitValue? (c : Char) : Option Nat :=
  if c.isDigit then some (c.toNat - 48) else none

/-- Reads digits after the number `acc`, to the end of the list. -/
def readDigits? (acc : Nat) : List Char → Option Nat
  | [] => some acc
  | c :: rest =>
    match digitValue? c with
    | some d => readDigits? (10 * acc + d) rest
    | none => none

/-- Reads a numeral, which may start with a plus sign. -/
def readNat? (s : List Char) : Option Nat :=
  match s with
  | [] => none
  | ['+'] => none
  | '+' :: rest => readDigits? 0 rest
  | _ => readDigits? 0 s

/-- Reads a numeral of a number below `bound`. -/
def readBelow? (bound : Nat) (s : String) : Option Nat :=
  (readNat? s.toList).bind fun n => if n < bound then some n else none

/-- The numerals of an index or a count are those of numbers below 2^64. -/
def readWord? (s : String) : Option Nat := readBelow? (Nat.pow 2 64) s

/-- The number in decimal, with `width` digits at least. -/
def padded (width n : Nat) : String :=
  let digits := Nat.toDigits 10 n
  String.ofList (List.replicate (width - digits.length) '0' ++ digits)

end TrainingJobs.Text
