import TrafficWatch.CommandLine.Grammar
import TrafficWatch.Decimal.Literal
import TrafficWatch.Url.Ip

/-!
Values of options.
-/

namespace TrafficWatch.CommandLine

abbrev Reader (α : Type) := String → Except UsageError α

def text : Reader String := .ok

/-- A path must not be empty. -/
def path : Reader String := fun s => if s.isEmpty then .error .invalidValue else .ok s

/-- A number of 64 bits; a plus may stand in front. -/
def word : Reader UInt64 := fun s =>
  let ds := match s.toList with | '+' :: t => t | t => t
  let n := Decimal.digitsValue ds
  if Decimal.isNumeral ds && n < 0x10000000000000000 then .ok (UInt64.ofNat n) else .error .valueValidation

/-- A port; either sign may stand in front. -/
def port : Reader UInt16 := fun s =>
  let (negative, ds) := match s.toList with
    | '+' :: t => (false, t)
    | '-' :: t => (true, t)
    | t => (false, t)
  let n := Decimal.digitsValue ds
  if Decimal.isNumeral ds && n < 0x10000 && (! negative || n == 0) then .ok (UInt16.ofNat n)
  else .error .valueValidation

def ipAddress : Reader Url.IpAddress := fun s =>
  match Url.IpAddress.parse? s with
  | some a => .ok a
  | none => .error .valueValidation

/-- One of some names, spelled exactly. -/
def choice {α : Type} (names : List (String × α)) : Reader α := fun s =>
  match names.find? (·.1 == s) with
  | some (_, a) => .ok a
  | none => .error .invalidValue

end TrafficWatch.CommandLine
