/-
Values in the query of a request, in the form that web forms use: letters, digits and four marks stand for
themselves, a blank is a plus sign, and every other byte is written as a percent sign and two digits.
-/

set_option autoImplicit false

namespace TrainingJobs.Text

/-- Whether a byte stands for itself. -/
def standsForItself (b : UInt8) : Bool :=
  let c := Char.ofNat b.toNat
  c.isAlphanum || c == '*' || c == '-' || c == '.' || c == '_'

/-- A hexadecimal digit, in upper case. -/
def upperHexDigit (n : Nat) : Char := Char.ofNat (if n < 10 then 48 + n else 55 + n)

/-- One byte of a value. -/
def queryByte (b : UInt8) : List Char :=
  if standsForItself b then [Char.ofNat b.toNat]
  else if b = 32 then ['+']
  else ['%', upperHexDigit (b.toNat / 16), upperHexDigit (b.toNat % 16)]

/-- A value as it stands in a query. -/
def queryValue (s : String) : String := String.ofList (s.toUTF8.toList.flatMap queryByte)

/-- The fields of a query, each after an ampersand. -/
def queryFields (fields : List (String × String)) : String :=
  String.join (fields.map fun f => "&" ++ queryValue f.1 ++ "=" ++ queryValue f.2)

end TrainingJobs.Text
