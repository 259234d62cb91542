import TrafficWatch.Decimal.Fixed

/-!
The shortest decimal text that reads back to the same double. Grids of 1, 2, ... 17 digits are
tried in turn; on each the two neighbours of the value are tested against the interval of reals
that round to it.
-/

namespace TrafficWatch.Decimal

/-- The number `coefficient * 10 ^ exponent`. -/
structure Scientific where
  coefficient : Nat
  exponent : Int
deriving DecidableEq, Repr

namespace Dyadic

/-- The reals that round to a double, as fractions over one denominator. The ends count if the
mantissa is even; below a power of two the gap is half as wide. -/
structure Neighbourhood where
  lower : Nat
  value : Nat
  upper : Nat
  denominator : Nat
  closed : Bool

def neighbourhood (d : Dyadic) : Neighbourhood :=
  let scale := Nat.pow 2 d.exponent.toNat
  let narrow := d.mantissa == hiddenBit && decide (-1074 < d.exponent)
  { lower := (4 * d.mantissa - if narrow then 1 else 2) * scale
    value := 4 * d.mantissa * scale
    upper := (4 * d.mantissa + 2) * scale
    denominator := 4 * d.denominator
    closed := d.mantissa % 2 == 0 }

end Dyadic

namespace Dyadic.Neighbourhood

def contains (n : Neighbourhood) (num den : Nat) : Bool :=
  let a := num * n.denominator
  if n.closed then n.lower * den ≤ a && a ≤ n.upper * den
  else n.lower * den < a && a < n.upper * den

/-- The place of the leading digit: `10 ^ (p - 1) ≤ value < 10 ^ p`. -/
def leadingPlace (n : Neighbourhood) : Int :=
  if n.denominator ≤ n.value then ((numeral (n.value / n.denominator)).length : Int)
  else below 400 0 (n.value * 10)
where
  numeral (k : Nat) : List Char := Nat.toDigits 10 k
  below : Nat → Int → Nat → Int
    | 0, p, _ => p
    | fuel + 1, p, v => if n.denominator ≤ v then p else below fuel (p - 1) (v * 10)

/-- The neighbour on the grid of `10 ^ place` that reads back, if there is one. -/
def onGrid (n : Neighbourhood) (place : Int) : Option Nat :=
  let up := Nat.pow 10 place.toNat
  let down := Nat.pow 10 (-place).toNat
  let num := n.value * down
  let den := n.denominator * up
  let floor := num / den
  let below := n.contains (floor * up) down
  let above := n.contains ((floor + 1) * up) down
  if below && above then some (roundDiv num den)
  else if below then some floor
  else if above then some (floor + 1)
  else none

def search (n : Neighbourhood) (lead : Int) : Nat → Nat → Option Scientific
  | 0, _ => none
  | fuel + 1, count =>
    let place := lead - count
    match n.onGrid place with
    | some k => some ⟨k, place⟩
    | none => n.search lead fuel (count + 1)

end Dyadic.Neighbourhood

/-- Trailing zeros go into the exponent. -/
def Scientific.trim : Nat → Scientific → Scientific
  | 0, s => s
  | fuel + 1, s =>
    if s.coefficient % 10 = 0 ∧ s.coefficient ≠ 0 then trim fuel ⟨s.coefficient / 10, s.exponent + 1⟩ else s

/-- Seventeen digits always suffice; the last resort is the exact expansion. -/
def Dyadic.shortest (d : Dyadic) : Scientific :=
  if d.mantissa = 0 then ⟨0, 0⟩
  else
    let n := d.neighbourhood
    match n.search n.leadingPlace 17 1 with
    | some s => s.trim 20
    | none => ⟨d.numerator * Nat.pow 5 (-d.exponent).toNat, -((-d.exponent).toNat : Int)⟩

/-- Positional from `10 ^ -5` to below `10 ^ 16`, with at least one place; otherwise one digit, the
rest after the point, and a signed exponent. -/
def Scientific.text (s : Scientific) : String :=
  let ds := digits s.coefficient
  let point : Int := ds.length + s.exponent
  if 0 ≤ s.exponent ∧ point ≤ 16 then
    ds ++ String.ofList (List.replicate s.exponent.toNat '0') ++ ".0"
  else if 0 < point ∧ point ≤ 16 then
    String.ofList (ds.toList.take point.toNat) ++ "." ++ String.ofList (ds.toList.drop point.toNat)
  else if -5 < point ∧ point ≤ 0 then
    "0." ++ String.ofList (List.replicate (-point).toNat '0') ++ ds
  else
    let e := point - 1
    let fraction := String.ofList (ds.toList.drop 1)
    String.ofList (ds.toList.take 1) ++ (if fraction.isEmpty then "" else "." ++ fraction) ++ "e" ++
      (if e < 0 then "-" else "+") ++ digits e.natAbs

/-- Digits alone, however many it takes; a point only before a fraction. -/
def Scientific.positional (s : Scientific) : String :=
  let ds := digits s.coefficient
  let point : Int := ds.length + s.exponent
  let zeros (n : Int) := String.ofList (List.replicate n.toNat '0')
  if 0 ≤ s.exponent then ds ++ zeros s.exponent
  else if 0 < point then
    String.ofList (ds.toList.take point.toNat) ++ "." ++ String.ofList (ds.toList.drop point.toNat)
  else "0." ++ zeros (-point) ++ ds

def shortest (x : Float) : String :=
  match Magnitude.ofFloat x with
  | .finite d =>
    (if d.negative then "-" else "") ++ if d.mantissa = 0 then "0.0" else d.shortest.text
  | .infinite negative => if negative then "-inf" else "inf"
  | .notANumber => "NaN"

/-- The same digits as the shortest text, but never with an exponent. -/
def positional (x : Float) : String :=
  match Magnitude.ofFloat x with
  | .finite d => (if d.negative then "-" else "") ++ d.shortest.positional
  | .infinite negative => if negative then "-inf" else "inf"
  | .notANumber => "NaN"

end TrafficWatch.Decimal
