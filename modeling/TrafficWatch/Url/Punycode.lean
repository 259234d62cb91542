/-!
Code points beyond ASCII written in letters, digits and hyphens. They are taken in ascending order,
each as its distance from the one before in a variable-length number whose digits adapt to the
distances so far.
-/

namespace TrafficWatch.Url.Punycode

def digitChar (d : Nat) : Char := if d < 26 then Char.ofNat (97 + d) else Char.ofNat (22 + d)

def digitValue (c : Char) : Option Nat :=
  if 'a' ≤ c ∧ c ≤ 'z' then some (c.toNat - 97)
  else if 'A' ≤ c ∧ c ≤ 'Z' then some (c.toNat - 65)
  else if c.isDigit then some (c.toNat - 22)
  else none

/-- From this value on, the digit at a place is not the last one. -/
def threshold (place bias : Nat) : Nat :=
  if place ≤ bias then 1 else if bias + 26 ≤ place then 26 else place - bias

def skew : Nat → Nat → Nat → Nat
  | 0, delta, k => k + 36 * delta / (delta + 38)
  | fuel + 1, delta, k =>
    if 455 < delta then skew fuel (delta / 35) (k + 36) else k + 36 * delta / (delta + 38)

def adapt (delta count : Nat) (first : Bool) : Nat :=
  let d := if first then delta / 700 else delta / 2
  skew 64 (d + d / count) 0

def writeNumber : Nat → Nat → Nat → Nat → List Char
  | 0, _, _, _ => []
  | fuel + 1, bias, place, q =>
    let t := threshold place bias
    if q < t then [digitChar q]
    else digitChar (t + (q - t) % (36 - t)) :: writeNumber fuel bias (place + 36) ((q - t) / (36 - t))

structure Writer where
  delta : Nat
  bias : Nat
  /-- Code points written so far. -/
  handled : Nat
  out : List Char

/-- Passes a code point of the text in the round for `n`. -/
def Writer.pass (basic n : Nat) (w : Writer) (c : Nat) : Writer :=
  if c < n then { w with delta := w.delta + 1 }
  else if c = n then
    { delta := 0
      bias := adapt w.delta (w.handled + 1) (w.handled == basic)
      handled := w.handled + 1
      out := w.out ++ writeNumber 64 w.bias 36 w.delta }
  else w

/-- One round for each code point beyond ASCII, in ascending order. -/
def rounds (text : List Nat) (basic : Nat) : List Nat → Nat → Writer → Writer
  | [], _, w => w
  | n :: ns, previous, w =>
    let w := { w with delta := w.delta + (n - previous) * (w.handled + 1) }
    let w := text.foldl (Writer.pass basic n) w
    rounds text basic ns (n + 1) { w with delta := w.delta + 1 }

def encode (s : List Char) : List Char :=
  let text := s.map Char.toNat
  let basic := s.filter (·.toNat < 128)
  let others := ((text.filter (128 ≤ ·)).mergeSort).eraseDups
  let start := if basic.isEmpty then [] else basic ++ ['-']
  (rounds text basic.length others 128 ⟨0, 72, basic.length, start⟩).out

/-- A number, and what follows it. -/
def readNumber : List Char → Nat → Nat → Nat → Nat → Option (Nat × List Char)
  | [], _, _, _, _ => none
  | c :: cs, bias, place, weight, sum => do
    let d ← digitValue c
    let sum := sum + d * weight
    let t := threshold place bias
    if d < t then some (sum, cs) else readNumber cs bias (place + 36) (weight * (36 - t)) sum

def insertAll : Nat → List Char → Nat → Nat → Nat → List Nat → Option (List Nat)
  | _, [], _, _, _, out => some out
  | 0, _ :: _, _, _, _, _ => none
  | fuel + 1, cs, n, i, bias, out => do
    let (distance, rest) ← readNumber cs bias 36 1 0
    let count := out.length + 1
    let n := n + (i + distance) / count
    let place := (i + distance) % count
    if 0x10ffff < n then none
    else insertAll fuel rest n (place + 1) (adapt distance count (i == 0)) (out.insertIdx place n)

def decode (s : List Char) : Option (List Char) := do
  let tail := (s.reverse.takeWhile (· != '-')).reverse
  let basic := s.take (s.length - tail.length - 1)
  let out ← insertAll (s.length + 1) tail 128 0 72 (basic.map Char.toNat)
  some (out.map Char.ofNat)

end TrafficWatch.Url.Punycode
