/-
How large a number may be.

A number is worked out as a double, in two steps. The digits are taken as long as the number they form stays
below `2^64`, and are rounded to a double; the power of ten that is left over is rounded to a double as well.
The product of the two then must not be beyond the range of a double. Because of the two roundings the bound
is not sharp: close to the largest double a number can be refused although it is within the range, or the
other way round. A number whose power of ten is a fraction is never beyond the range.
-/
import TrainingJobs.Text.Numeral

set_option autoImplicit false

namespace TrainingJobs.Json

/-- The least number too large for a double: halfway from the largest one to the next power of two. -/
def doubleBound : Nat := Nat.pow 2 1024 - Nat.pow 2 970

def doubleBits : Nat := 53

/-- The multiple of `unit` that is nearest to a number; of two the one with an even factor. -/
def nearestMultiple (unit n : Nat) : Nat :=
  let below := n / unit
  let left := n % unit
  if unit < 2 * left ∨ (2 * left = unit ∧ below % 2 = 1) then (below + 1) * unit else below * unit

/-- The double that is nearest to a number, had doubles no upper bound. -/
def nearestDouble (n : Nat) : Nat := nearestMultiple (Nat.pow 2 (n.log2 + 1 - doubleBits)) n

/-- The digits that are taken, as a number, and those that are left. -/
def takeDigits (acc : Nat) : List Char → Nat × List Char
  | [] => (acc, [])
  | c :: rest =>
    let next := 10 * acc + (Text.digitValue? c).getD 0
    if next < Nat.pow 2 64 then takeDigits next rest else (acc, c :: rest)

/-- The largest exponent of a power of ten that is a double. -/
def largestPower : Nat := 308

/-- Whether a number with these digits before and behind the point and with this exponent can be read. -/
def inDoubleRange (whole fraction : List Char) (exponent : Int) : Bool :=
  let (upToPoint, left) := takeDigits 0 whole
  let (digits, dropped) := takeDigits upToPoint fraction
  -- A digit left over before the point counts ten, and one that was taken behind it a tenth.
  let power := exponent + left.length - (fraction.length - dropped.length : Nat)
  if digits = 0 ∨ power < 0 then true
  else decide (power ≤ largestPower) &&
    decide (nearestDouble digits * nearestDouble (Nat.pow 10 power.toNat) < doubleBound)

end TrainingJobs.Json
