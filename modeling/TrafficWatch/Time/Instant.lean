import TrafficWatch.Decimal.Fixed
import TrafficWatch.Time.Calendar

/-!
Instants of universal time with nanoseconds. A leap second is written as second 60 and kept as
nanoseconds beyond the full second it follows.
-/

namespace TrafficWatch.Time

structure Instant where
  day : Int
  second : Nat
  nano : Nat
deriving DecidableEq, Repr

/-- Nanoseconds, of either sign. -/
abbrev Span := Int

namespace Instant

def epoch : Instant := ⟨0, 0, 0⟩

/-- The instant so many nanoseconds after the beginning of 1970. -/
def ofNanoseconds (n : Int) : Instant where
  day := Int.fdiv n 86400000000000
  second := (Int.fmod n 86400000000000).toNat / 1000000000
  nano := (Int.fmod n 1000000000).toNat

def isLeapSecond (t : Instant) : Bool := 1000000000 ≤ t.nano

/-- The time from `b` to `a`. A leap second between two times of day counts as a second of its
own. -/
def since (a b : Instant) : Span :=
  let leap : Int :=
    if b.second < a.second then (if b.isLeapSecond then 1 else 0)
    else if a.second < b.second then (if a.isLeapSecond then -1 else 0)
    else 0
  ((a.day - b.day) * 86400 + ((a.second : Int) - b.second) + leap) * 1000000000 +
    ((a.nano : Int) - b.nano)

end Instant

/-- Whole seconds, cut toward zero. -/
def Span.wholeSeconds (s : Span) : Int := Int.tdiv s 1000000000

/-- Whole microseconds, cut toward zero, unless the count leaves 64 signed bits. -/
def Span.microseconds? (s : Span) : Option Int :=
  let n := Int.tdiv s 1000
  if -9223372036854775808 ≤ n ∧ n ≤ 9223372036854775807 then some n else none

private def pad (width : Nat) (n : Nat) : String := Decimal.padZeros width (Decimal.digits n)

/-- Years outside four digits carry a sign and at least four digits. -/
def yearText (y : Int) : String :=
  if 0 ≤ y ∧ y ≤ 9999 then pad 4 y.toNat
  else (if y < 0 then "-" else "+") ++ pad 4 y.natAbs

/-- None, three, six or nine digits: the fewest that are exact. -/
def fractionText (nano : Nat) : String :=
  if nano = 0 then ""
  else if nano % 1000000 = 0 then "." ++ pad 3 (nano / 1000000)
  else if nano % 1000 = 0 then "." ++ pad 6 (nano / 1000)
  else "." ++ pad 9 nano

/-- Hours, minutes and seconds. -/
def Instant.timeOfDay (t : Instant) : String :=
  let second := t.second % 60 + (if t.isLeapSecond then 1 else 0)
  pad 2 (t.second / 3600) ++ ":" ++ pad 2 (t.second / 60 % 60) ++ ":" ++ pad 2 second

def Instant.text (t : Instant) : String :=
  let date := Date.ofDays t.day
  let nano := if t.isLeapSecond then t.nano - 1000000000 else t.nano
  yearText date.year ++ "-" ++ pad 2 date.month ++ "-" ++ pad 2 date.day ++ "T" ++ t.timeOfDay ++
    fractionText nano ++ "Z"

end TrafficWatch.Time
