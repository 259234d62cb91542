/-!
Finite doubles as exact binary numbers. `Magnitude.ofFloat` splits a double into sign, mantissa
and power of two, so that its decimal text can be computed without rounding on the way.
-/

namespace TrafficWatch.Decimal

/-- The number `mantissa * 2 ^ exponent`, negated if `negative`. -/
structure Dyadic where
  negative : Bool
  mantissa : Nat
  exponent : Int
deriving DecidableEq, Repr

namespace Dyadic

def numerator (d : Dyadic) : Nat := d.mantissa * Nat.pow 2 d.exponent.toNat

def denominator (d : Dyadic) : Nat := Nat.pow 2 (-d.exponent).toNat

theorem denominator_pos (d : Dyadic) : 0 < d.denominator := Nat.two_pow_pos _

end Dyadic

inductive Magnitude where
  | finite (value : Dyadic)
  | infinite (negative : Bool)
  | notANumber
deriving DecidableEq, Repr

/-- The least mantissa of a normal double, `2 ^ 52`. -/
def hiddenBit : Nat := 0x10000000000000

/-- Subnormal doubles share the exponent of the smallest normal ones. -/
def Magnitude.ofBits (bits : UInt64) : Magnitude :=
  let word : Nat := bits.toNat
  let negative := word / 0x8000000000000000 == 1
  let field : Nat := word / hiddenBit % 2048
  let fraction : Nat := word % hiddenBit
  if field = 2047 then
    if fraction = 0 then .infinite negative else .notANumber
  else if field = 0 then .finite ⟨negative, fraction, -1074⟩
  else .finite ⟨negative, hiddenBit + fraction, (field : Int) - 1075⟩

def Magnitude.ofFloat (x : Float) : Magnitude := .ofBits x.toBits

end TrafficWatch.Decimal
