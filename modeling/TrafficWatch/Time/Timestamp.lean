import TrafficWatch.Text.Blank
import TrafficWatch.Time.Instant

/-!
Reading a timestamp. The form is RFC 3339, with some freedom: blanks between the parts, a blank for
the `T`, digits that may be fewer than usual, an offset with or without a colon, and `UTC` for `Z`.
-/

namespace TrafficWatch.Time

inductive TimestampError where
  | tooShort
  | invalid
  | outOfRange
  | impossible
  | trailing
deriving DecidableEq, Repr

def TimestampError.message : TimestampError → String
  | .tooShort => "premature end of input"
  | .invalid => "input contains invalid characters"
  | .outOfRange => "input is out of range"
  | .impossible => "no possible date and time matching input"
  | .trailing => "trailing input"

namespace Timestamp

open TimestampError

def digitValue (c : Char) : Nat := c.toNat - 48

def valueOf (ds : List Char) : Nat := ds.foldl (fun n d => 10 * n + digitValue d) 0

/-- At least one digit and at most `limit` of them; a value must fit 64 signed bits. -/
def number (limit : Option Nat) (s : List Char) : Except TimestampError (Nat × List Char) :=
  match s with
  | [] => .error tooShort
  | c :: _ =>
    if ! c.isDigit then .error invalid
    else
      let all := s.takeWhile Char.isDigit
      let ds := match limit with | some n => all.take n | none => all
      let v := valueOf ds
      if v ≤ 9223372036854775807 then .ok (v, s.drop ds.length) else .error outOfRange

def within (lo hi : Nat) (r : Nat × List Char) : Except TimestampError (Nat × List Char) :=
  if lo ≤ r.1 ∧ r.1 ≤ hi then .ok r else .error outOfRange

/-- A signed year may have any number of digits. -/
def year (s : List Char) : Except TimestampError (Int × List Char) := do
  let s := Text.trimStart s
  let (negative, v, s) ← match s with
    | '-' :: t => (number none t).map (true, ·)
    | '+' :: t => (number none t).map (false, ·)
    | _ => (number (some 4) s).map (false, ·)
  let y : Int := if negative then -v else v
  if -2147483648 ≤ y ∧ y ≤ 2147483647 then pure (y, s) else .error outOfRange

def part (lo hi : Nat) (s : List Char) : Except TimestampError (Nat × List Char) := do
  within lo hi (← number (some 2) (Text.trimStart s))

def literal (c : Char) (s : List Char) : Except TimestampError (List Char) :=
  match Text.trimStart s with
  | [] => .error tooShort
  | d :: t => if d = c then .ok t else .error invalid

/-- Digits after the ninth are dropped. -/
def fraction (s : List Char) : Except TimestampError (Nat × List Char) :=
  match s with
  | '.' :: t => do
    let (v, rest) ← number (some 9) t
    let used := t.length - rest.length
    pure (v * Nat.pow 10 (9 - used), rest.dropWhile Char.isDigit)
  | _ => .ok (0, s)

/-- Two characters that must be there; a single character beyond ASCII fills both places. -/
def two (s : List Char) : Option (Option (Nat × Nat × List Char)) :=
  match s with
  | [] => none
  | [c] => if c.toNat < 0x80 then none else some none
  | a :: b :: t =>
    if a.isDigit && b.isDigit then some (some (digitValue a, digitValue b, t)) else some none

/-- Seconds east of Greenwich. -/
def offset (s : List Char) : Except TimestampError (Int × List Char) :=
  match s with
  | [] => .error tooShort
  | c :: t =>
    if c = 'Z' ∨ c = 'z' then .ok (0, t)
    else if (s.take 3).map Char.toLower = ['u', 't', 'c'] then .ok (0, s.drop 3)
    else if c = '+' then hours 1 t
    else if c = '-' ∨ c = '−' then hours (-1) t
    else .error invalid
where
  hours (sign : Int) (s : List Char) : Except TimestampError (Int × List Char) :=
    match two s with
    | none => .error tooShort
    | some none => .error invalid
    | some (some (h1, h2, t)) => minutes sign (10 * h1 + h2)
        (t.dropWhile fun c => c = ':' || Text.isBlank c)
  minutes (sign : Int) (h : Nat) (s : List Char) : Except TimestampError (Int × List Char) :=
    match two s with
    | none => .error tooShort
    | some none => .error invalid
    | some (some (m1, m2, t)) =>
      if m1 ≤ 5 then .ok (sign * (3600 * h + 60 * (10 * m1 + m2) : Nat), t)
      else .error outOfRange

/-- The instant of a local time, if the day stays in range. -/
def shift (day : Int) (second : Int) (nano : Nat) : Except TimestampError Instant :=
  let d := day + second / 86400
  if minDay ≤ d ∧ d ≤ maxDay then .ok ⟨d, (second % 86400).toNat, nano⟩ else .error impossible

end Timestamp

open Timestamp in
def Instant.ofText? (s : String) : Except TimestampError Instant := do
  let (y, s) ← year s.toList
  let s ← literal '-' s
  let (month, s) ← part 1 12 s
  let s ← literal '-' s
  let (day, s) ← part 1 31 s
  let s ← match s with
    | [] => .error .tooShort
    | c :: t => if c = 't' ∨ c = 'T' ∨ c = ' ' then .ok t else .error .invalid
  let (hour, s) ← part 0 23 s
  let s ← literal ':' s
  let (minute, s) ← part 0 59 s
  let s ← literal ':' s
  let (second, s) ← part 0 60 s
  let (nano, s) ← fraction s
  let (east, s) ← offset (Text.trimStart s)
  if ! (Text.trimStart s).isEmpty then .error .trailing
  let date : Date := ⟨y, month, day⟩
  if ! date.valid then .error .outOfRange
  if ¬ (-86400 < east ∧ east < 86400) then .error .outOfRange
  let leap := second = 60
  let clock : Nat := 3600 * hour + 60 * minute + (if leap then 59 else second)
  shift date.toDays ((clock : Int) - east) (if leap then nano + 1000000000 else nano)

end TrafficWatch.Time
