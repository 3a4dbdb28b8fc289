/-
Lower case, for all of Unicode.

A replica type is matched against labels in lower case, and users may write it in any script, so the rule is
the full one: every character has the lower case of the tables, a capital I with a dot becomes two
characters, and a capital sigma becomes the final form at the end of a word. "At the end of a word" means:
passing over the characters that the search ignores, there is a letter before it and none after it.
-/
import TrainingJobs.Text.CaseTable

set_option autoImplicit false

namespace TrainingJobs.Text

/-- Whether `n` lies in one of the ranges. -/
def inRanges (ranges : List (Nat × Nat)) (n : Nat) : Bool :=
  ranges.any fun r => decide (r.1 ≤ n) && decide (n ≤ r.2)

/-- Whether `c` is a letter with a case. -/
def isCased (c : Char) : Bool :=
  if c.toNat < 0x80 then c.isAlpha else inRanges casedRanges c.toNat

/-- Whether a search for a neighbouring letter passes over `c`. In ASCII these are the apostrophe, the full
stop, the colon, the circumflex and the grave accent. -/
def isCaseIgnorable (c : Char) : Bool :=
  if c.toNat < 0x80 then [0x27, 0x2E, 0x3A, 0x5E, 0x60].contains c.toNat
  else inRanges caseIgnorableRanges c.toNat

/-- Whether a run of the table contains the code point `n`. -/
def CaseRun.contains (r : CaseRun) (n : Nat) : Bool :=
  decide (r.first ≤ n) && decide (n ≤ r.last) && (n - r.first) % r.stride == 0

/-- The lower case of one character, wherever it stands. -/
def lowerChar (c : Char) : List Char :=
  if c.toNat < 0x80 then [c.toLower]
  else if c.toNat = 0x130 then [Char.ofNat 0x69, Char.ofNat 0x307]
  else
    match caseRuns.find? fun r => r.contains c.toNat with
    | some r => [Char.ofNat (c.toNat + r.shift).toNat]
    | none => [c]

/-- The capital sigma, whose lower case depends on its neighbours. -/
def capitalSigma : Char := Char.ofNat 0x3A3

/-- Whether the first character that a search does not pass over is a letter. -/
def seesLetter (l : List Char) : Bool :=
  match l.dropWhile isCaseIgnorable with
  | c :: _ => isCased c
  | [] => false

/-- Lowers the characters of a text, of which `before` precede, the nearest first. -/
def lowerAfter (before : List Char) : List Char → List Char
  | [] => []
  | c :: rest =>
    let here :=
      if c = capitalSigma then
        [if seesLetter before && !seesLetter rest then Char.ofNat 0x3C2 else Char.ofNat 0x3C3]
      else lowerChar c
    here ++ lowerAfter (c :: before) rest

/-- The text in lower case. -/
def lowercase (s : String) : String := String.ofList (lowerAfter [] s.toList)

/-- Whether two texts are the same but for the case of ASCII letters. -/
def sameUpToAsciiCase (a b : String) : Bool :=
  a.toList.map Char.toLower == b.toList.map Char.toLower

end TrainingJobs.Text
