/-
Instants as text, in the profile of RFC 3339.

Written, an instant is `YYYY-MM-DDTHH:MM:SSZ`: universal time, the fraction cut, four digits for the years 0
to 9999 and a sign before any other. Read, the separator may also be `t` or a space, a fraction of any
length may follow the seconds (digits beyond the ninth are dropped), and the zone is `Z`, `z` or an offset
of hours and minutes.
-/
import TrainingJobs.Text.Numeral
import TrainingJobs.Time.Basic
import TrainingJobs.Time.Calendar

set_option autoImplicit false

namespace TrainingJobs.Timestamp

open Text Calendar

/-- A year as it is written: four digits, and a sign when it is negative or has more digits. -/
def renderYear (year : Int) : String :=
  if 0 ≤ year ∧ year ≤ 9999 then padded 4 year.toNat
  else if year < 0 then "-" ++ padded 4 year.natAbs
  else "+" ++ padded 4 year.toNat

def render (t : Timestamp) : String :=
  let seconds := t.epochSecond
  let date := Date.ofDays (seconds.fdiv 86400)
  let ofDay := (seconds.fmod 86400).toNat
  renderYear date.year ++ "-" ++ padded 2 date.month ++ "-" ++ padded 2 date.day ++ "T"
    ++ padded 2 (ofDay / 3600) ++ ":" ++ padded 2 (ofDay / 60 % 60) ++ ":" ++ padded 2 (ofDay % 60) ++ "Z"

def renderMicros (t : Timestamp) : String :=
  String.ofList (t.render.toList.dropLast) ++ "." ++ padded 6 ((t.nanos.fmod nanosPerSecond).toNat / 1000) ++ "Z"

def readFixed? : Nat → List Char → Option (Nat × List Char)
  | n, s =>
    let digits := s.take n
    if digits.length = n then (readDigits? 0 digits).map fun v => (v, s.drop n) else none

def readOneOf? (allowed : List Char) : List Char → Option (Char × List Char)
  | c :: rest => if allowed.contains c then some (c, rest) else none
  | [] => none

def readDate? (s : List Char) : Option (Date × List Char) := do
  let (year, s) ← readFixed? 4 s
  let (_, s) ← readOneOf? ['-'] s
  let (month, s) ← readFixed? 2 s
  let (_, s) ← readOneOf? ['-'] s
  let (day, s) ← readFixed? 2 s
  let date : Date := ⟨year, month, day⟩
  if date.valid then some (date, s) else none

/-- Reads hours, minutes and seconds, as seconds of the day. -/
def readTimeOfDay? (s : List Char) : Option (Nat × List Char) := do
  let (hour, s) ← readFixed? 2 s
  let (_, s) ← readOneOf? [':'] s
  let (minute, s) ← readFixed? 2 s
  let (_, s) ← readOneOf? [':'] s
  let (second, s) ← readFixed? 2 s
  if hour < 24 ∧ minute < 60 ∧ second < 60 then some (hour * 3600 + minute * 60 + second, s) else none

/-- Reads the fraction of a second, where there is one, as nanoseconds. -/
def readFraction? (s : List Char) : Option (Nat × List Char) :=
  match s with
  | '.' :: rest =>
    let digits := rest.takeWhile Char.isDigit
    if digits.isEmpty then none
    else
      let nine := digits.take 9
      (readDigits? 0 (nine ++ List.replicate (9 - nine.length) '0')).map fun v =>
        (v, rest.dropWhile Char.isDigit)
  | _ => some (0, s)

/-- Reads the zone, as seconds ahead of universal time. -/
def readZone? (s : List Char) : Option (Int × List Char) := do
  let (c, s) ← readOneOf? ['Z', 'z', '+', '-'] s
  if c = 'Z' ∨ c = 'z' then some (0, s)
  else
    let (hours, s) ← readFixed? 2 s
    let (_, s) ← readOneOf? [':'] s
    let (minutes, s) ← readFixed? 2 s
    let ahead : Int := hours * 3600 + minutes * 60
    if hours < 24 ∧ minutes < 60 then some (if c = '+' then ahead else -ahead, s) else none

/-- Reads an instant; the whole text has to be one. -/
def parse? (text : String) : Option Timestamp := do
  let (date, s) ← readDate? text.toList
  let (_, s) ← readOneOf? ['T', 't', ' '] s
  let (ofDay, s) ← readTimeOfDay? s
  let (fraction, s) ← readFraction? s
  let (ahead, s) ← readZone? s
  if s.isEmpty then some ⟨(date.toDays * 86400 + ofDay - ahead) * nanosPerSecond + fraction⟩ else none

end TrainingJobs.Timestamp
