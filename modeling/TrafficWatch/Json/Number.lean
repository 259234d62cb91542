/-!
Numbers of JSON text. Integers of up to 64 bits stay exact; all else becomes a double from its first
significant digits and a power of ten.
-/

namespace TrafficWatch.Json

/-- Why a text is not JSON: it ends too early, or it breaks the grammar. -/
inductive Fault where
  | ended
  | malformed
deriving DecidableEq, Repr

inductive Number where
  | integer (value : Int)
  | real (value : Float)
deriving DecidableEq, Repr

/-- The parts of a number as written. -/
structure Lexeme where
  negative : Bool
  whole : List Char
  fraction : List Char
  exponent : Option (Bool × List Char)
  hasFraction : Bool
deriving Repr

def maxSignificand : Nat := 18446744073709551615

def digit (c : Char) : Nat := c.toNat - 48

/-- Digits are taken while they fit; the count is of those taken. -/
def takeDigits (start : Nat) : List Char → Nat × Nat
  | [] => (start, 0)
  | c :: cs =>
    let next := 10 * start + digit c
    if next ≤ maxSignificand then
      let (v, n) := takeDigits next cs
      (v, n + 1)
    else (start, 0)

def powerOfTen (n : Nat) : Float := Float.ofScientific 1 false n

/-- Powers beyond the largest are divided out in steps. -/
def shrink : Nat → Float → Nat → Float
  | 0, x, _ => x
  | fuel + 1, x, n =>
    if n ≤ 308 then x / powerOfTen n
    else if x == 0 then x
    else shrink fuel (x / powerOfTen 308) (n - 308)

/-- The double `significand * 10 ^ exponent`, unless it is too large. -/
def scaled (significand : Nat) (exponent : Int) : Option Float :=
  let x := (UInt64.ofNat significand).toFloat
  if exponent < 0 then some (shrink 5 x exponent.natAbs)
  else if exponent ≤ 308 then
    let y := x * powerOfTen exponent.toNat
    if y.isInf then none else some y
  else if x == 0 then some x
  else none

/-- The largest written exponent that is computed with. -/
def maxExponent : Nat := 2147483647

namespace Lexeme

def signed (l : Lexeme) (x : Float) : Float := if l.negative then -x else x

def real (l : Lexeme) (x : Option Float) : Except Fault Number :=
  match x with
  | some x => .ok (.real (l.signed x))
  | none => .error .malformed

def value (l : Lexeme) : Except Fault Number :=
  let (whole, used) := takeDigits 0 l.whole
  let dropped := l.whole.length - used
  if dropped = 0 ∧ ! l.hasFraction ∧ l.exponent.isNone then
    if ! l.negative then .ok (.integer whole)
    else if whole = 0 ∨ 9223372036854775808 < whole then
      .ok (.real (-(UInt64.ofNat whole).toFloat))
    else .ok (.integer (-(whole : Int)))
  else
    let (significand, places) := takeDigits whole l.fraction
    let base : Int := (dropped : Int) - places
    match l.exponent with
    | none => l.real (scaled significand base)
    | some (negative, ds) =>
      let e := ds.foldl (fun n c => 10 * n + digit c) 0
      if maxExponent < e then
        if significand ≠ 0 ∧ ! negative then .error .malformed else l.real (some 0)
      else l.real (scaled significand (base + if negative then -(e : Int) else e))

end Lexeme

/-- A number that breaks off. A reader that wants the value tells an early end from a wrong
character; one that skips it does not. -/
structure Broken where
  strict : Fault

/-- At least one digit. -/
def someDigits (s : List Char) : Except Broken (List Char × List Char) :=
  match s with
  | [] => .error ⟨.ended⟩
  | c :: _ => if c.isDigit then .ok (s.takeWhile Char.isDigit, s.dropWhile Char.isDigit)
    else .error ⟨.malformed⟩

/-- A leading zero stands alone. -/
def wholePart (s : List Char) : Except Broken (List Char × List Char) :=
  match s with
  | '0' :: c :: t => if c.isDigit then .error ⟨.malformed⟩ else .ok (['0'], c :: t)
  | _ => someDigits s

def fractionPart (s : List Char) : Except Broken (Bool × List Char × List Char) :=
  match s with
  | '.' :: t => (someDigits t).map (true, ·)
  | _ => .ok (false, [], s)

def exponentPart (s : List Char) : Except Broken (Option (Bool × List Char) × List Char) :=
  match s with
  | c :: t =>
    if c = 'e' ∨ c = 'E' then
      match t with
      | '+' :: u => (someDigits u).map fun p => (some (false, p.1), p.2)
      | '-' :: u => (someDigits u).map fun p => (some (true, p.1), p.2)
      | _ => (someDigits t).map fun p => (some (false, p.1), p.2)
    else .ok (none, s)
  | [] => .ok (none, [])

def unsigned (negative : Bool) (s : List Char) : Except Broken (Lexeme × List Char) := do
  let (whole, s) ← wholePart s
  let (hasFraction, fraction, s) ← fractionPart s
  let (exponent, s) ← exponentPart s
  pure ({ negative, whole, fraction, exponent, hasFraction }, s)

/-- Reads the number that `s` begins with. -/
def scanNumber (s : List Char) : Except Broken (Lexeme × List Char) :=
  match s with
  | '-' :: t => unsigned true t
  | _ => unsigned false s

end TrafficWatch.Json
