import TrafficWatch.Decimal.Literal
import TrafficWatch.Text.Ranges

/-!
What a plain scalar stands for. Digits after a leading zero are no number, and neither is a number
beyond the range of doubles.
-/

namespace TrafficWatch.Yaml

inductive Meaning where
  | nothing
  | flag (value : Bool)
  | natural (value : Nat)
  /-- A number below zero or with a fraction. -/
  | number
  | text
deriving DecidableEq, Repr

def isNull (s : String) : Bool := ["null", "Null", "NULL", "~"].contains s

def flag? (s : String) : Option Bool :=
  if ["true", "True", "TRUE"].contains s then some true
  else if ["false", "False", "FALSE"].contains s then some false
  else none

def digitIn (radix : Nat) (c : Char) : Bool :=
  (c.isDigit || ('a' ≤ c && c ≤ 'f') || ('A' ≤ c && c ≤ 'F')) && Text.hexDigitValue c < radix

/-- At least one digit, and nothing else. -/
def valueIn (radix : Nat) (cs : List Char) : Option Nat :=
  if ! cs.isEmpty && cs.all (digitIn radix) then
    some (cs.foldl (fun n c => radix * n + Text.hexDigitValue c) 0)
  else none

def isZeroPadded (cs : List Char) : Bool :=
  match cs with
  | '0' :: c :: t => (c :: t).all Char.isDigit
  | _ => false

/-- A whole number without a sign, in the radix that its first characters name. -/
def magnitude? (cs : List Char) : Option Nat :=
  match cs with
  | '0' :: 'x' :: ds => valueIn 16 ds
  | '0' :: 'o' :: ds => valueIn 8 ds
  | '0' :: 'b' :: ds => valueIn 2 ds
  | ds => if isZeroPadded ds then none else valueIn 10 ds

def withoutPlus (cs : List Char) : List Char := match cs with | '+' :: t => t | _ => cs

/-- One plus may stand in front. -/
def natural? (cs : List Char) : Option Nat := magnitude? (withoutPlus cs)

def isNegative (cs : List Char) : Bool :=
  match cs with
  | '-' :: t => (magnitude? t).any (· ≤ 0x80000000000000000000000000000000)
  | _ => false

def isInfinite (s : String) : Bool :=
  [".inf", ".Inf", ".INF", "+.inf", "+.Inf", "+.INF", "-.inf", "-.Inf", "-.INF"].contains s

def isNotANumber (s : String) : Bool := [".nan", ".NaN", ".NAN"].contains s

/-- A decimal number with a finite value. One sign may stand in front. -/
def isReal (cs : List Char) : Bool :=
  let digits := match cs with
    | '+' :: t => t
    | '-' :: t => t
    | t => t
  ! isZeroPadded digits && (Decimal.Scientific.ofText? digits).any (·.isFinite)

def meaning (s : String) : Meaning :=
  let cs := s.toList
  if s.isEmpty || isNull s then .nothing
  else match flag? s with
    | some b => .flag b
    | none =>
      match (natural? cs).filter (· < 0x100000000000000000000000000000000) with
      | some n => .natural n
      | none =>
        if isNegative cs || isInfinite s || isNotANumber s || isReal cs then .number else .text

/-- Digits after a leading zero, which look like a number. -/
def looksNumeric (s : String) : Bool :=
  match s.toList with
  | '+' :: t => isZeroPadded t
  | '-' :: t => isZeroPadded t
  | t => isZeroPadded t

end TrafficWatch.Yaml
