/-
Quoted text, as a diagnostic shows it: between quotation marks, the marks and backslashes inside escaped,
line ends and tabs by letter, and every other character that would not be seen by its number in
hexadecimal.
-/
import TrainingJobs.Text.HiddenTable
import TrainingJobs.Text.Lowercase

set_option autoImplicit false

namespace TrainingJobs.Text

/-- Whether a quoted text writes `c` by number: it prints nothing, or attaches to what stands before it. -/
def isHidden (c : Char) : Bool :=
  if c.toNat < 0x80 then decide (c.toNat < 0x20) || c.toNat == 0x7F
  else inRanges hiddenRanges c.toNat

/-- One character of a quoted text. -/
def quotedChar (c : Char) : List Char :=
  if c = '"' then ['\\', '"']
  else if c = '\\' then ['\\', '\\']
  else if c = '\n' then ['\\', 'n']
  else if c = '\r' then ['\\', 'r']
  else if c = '\t' then ['\\', 't']
  else if c.toNat = 0 then ['\\', '0']
  else if isHidden c then ['\\', 'u', Char.ofNat 0x7B] ++ Nat.toDigits 16 c.toNat ++ [Char.ofNat 0x7D]
  else [c]

/-- The text between quotation marks, with everything escaped that would not be seen. -/
def quoted (s : String) : String :=
  String.ofList ('"' :: s.toList.flatMap quotedChar ++ ['"'])

end TrainingJobs.Text
