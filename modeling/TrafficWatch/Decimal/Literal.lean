import TrafficWatch.Decimal.Shortest

/-!
Decimal numbers as they are written, and which of them are within the range of doubles.
-/

namespace TrafficWatch.Decimal

def digitsValue (cs : List Char) : Nat := cs.foldl (fun n c => 10 * n + (c.toNat - 48)) 0

/-- At least one digit, and nothing else. -/
def isNumeral (cs : List Char) : Bool := ! cs.isEmpty && cs.all Char.isDigit

/-- A power of ten after a mantissa. -/
def readExponent : List Char → Option Int
  | [] => some 0
  | e :: cs =>
    if e != 'e' && e != 'E' then none
    else
      let (negative, ds) := match cs with
        | '-' :: ds => (true, ds)
        | '+' :: ds => (false, ds)
        | ds => (false, ds)
      if isNumeral ds then some (if negative then -(digitsValue ds : Int) else digitsValue ds) else none

/-- Digits with at most one point among them, and an exponent if need be. -/
def Scientific.ofText? (cs : List Char) : Option Scientific :=
  let whole := cs.takeWhile Char.isDigit
  let rest := cs.dropWhile Char.isDigit
  let (fraction, rest) := match rest with
    | '.' :: t => (t.takeWhile Char.isDigit, t.dropWhile Char.isDigit)
    | _ => ([], rest)
  if whole.isEmpty && fraction.isEmpty then none
  else (readExponent rest).map fun e => ⟨digitsValue (whole ++ fraction), e - fraction.length⟩

/-- From here on a number is rounded to infinity. -/
def overflow : Nat := Nat.pow 2 1024 - Nat.pow 2 970

/-- Whether a number is rounded to a finite double. Where its digits and its exponent alone decide,
no power is computed. -/
def Scientific.isFinite (s : Scientific) : Bool :=
  if s.coefficient = 0 then true
  else
    let places : Int := (Nat.toDigits 10 s.coefficient).length + s.exponent
    if places ≤ 308 then true
    else if 310 ≤ places then false
    else s.coefficient * Nat.pow 10 s.exponent.toNat <
      overflow * Nat.pow 10 (-s.exponent).toNat

end TrafficWatch.Decimal
