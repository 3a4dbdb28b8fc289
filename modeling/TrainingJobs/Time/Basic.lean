/-
Instants and lengths of time, both counted in nanoseconds.

A `Timestamp` is an instant; it may lie before the epoch, so it is an integer. A `Duration` is a length of
time that is waited, so it is never negative. Three rules join them, and each rounds in its own way: the
time elapsed is counted in whole seconds, cut toward zero; a wait that is shown is rounded up; and an instant
that is written is cut to the second it lies in.
-/

set_option autoImplicit false

namespace TrainingJobs

abbrev nanosPerSecond : Nat := 1000000000

/-- An instant, in nanoseconds since the start of 1970 in universal time. -/
structure Timestamp where
  /-- The nanoseconds since the epoch, negative before it. -/
  nanos : Int
  deriving DecidableEq, Repr, Inhabited

/-- A length of time, in nanoseconds. -/
structure Duration where
  nanos : Nat
  deriving DecidableEq, Repr, Inhabited

namespace Duration

def ofSeconds (n : Nat) : Duration := ⟨n * nanosPerSecond⟩

def ofMillis (n : Nat) : Duration := ⟨n * 1000000⟩

/-- The longest time that can be waited: one nanosecond less than 2^64 seconds. -/
def longest : Duration := ⟨Nat.pow 2 64 * nanosPerSecond - 1⟩

def wholeSeconds (d : Duration) : Nat := d.nanos / nanosPerSecond

def subsecondNanos (d : Duration) : Nat := d.nanos % nanosPerSecond

def secondsRoundedUp (d : Duration) : Nat := (d.nanos + (nanosPerSecond - 1)) / nanosPerSecond

def millisRoundedUp (d : Duration) : Nat := (d.nanos + 999999) / 1000000

/-- The length in seconds, rounded to the nearest; a half goes up. -/
def secondsRounded (d : Duration) : Nat := (d.nanos + nanosPerSecond / 2) / nanosPerSecond

def min (a b : Duration) : Duration := if a.nanos ≤ b.nanos then a else b

/-- What is left of `a` after `b`: nothing, when `b` is longer. -/
def minus (a b : Duration) : Duration := ⟨a.nanos - b.nanos⟩

/-- `n` times the length, unless that is longer than any time that can be waited. -/
def times? (d : Duration) (n : Nat) : Option Duration :=
  if d.nanos * n ≤ longest.nanos then some ⟨d.nanos * n⟩ else none

end Duration

namespace Timestamp

/-- The instant `nanos` later, or earlier when it is negative. -/
def shift (t : Timestamp) (nanos : Int) : Timestamp := ⟨t.nanos + nanos⟩

/-- The instant `n` seconds later, or earlier when `n` is negative. -/
def addSeconds (t : Timestamp) (n : Int) : Timestamp := t.shift (n * nanosPerSecond)

/-- The whole seconds from `start` to `t`, cut toward zero; negative when `start` is the later. -/
def wholeSecondsSince (t start : Timestamp) : Int := (t.nanos - start.nanos).tdiv nanosPerSecond

/-- The time from `start` to `t`: none, when `start` is the later. -/
def since (t start : Timestamp) : Duration := ⟨(t.nanos - start.nanos).toNat⟩

/-- The second in which the instant lies, counted from the epoch. -/
def epochSecond (t : Timestamp) : Int := t.nanos.fdiv nanosPerSecond

/-- The instant at which the second of `t` starts. -/
def cutToSecond (t : Timestamp) : Timestamp := ⟨t.epochSecond * nanosPerSecond⟩

end Timestamp

end TrainingJobs
