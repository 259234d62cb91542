import TrafficWatch.Decimal.Binary

/-!
Decimal text with a fixed number of places. The exact binary value is rounded once, and a tie goes
to the even neighbour.
-/

namespace TrafficWatch.Decimal

/-- The integer nearest to `num / den`; of two equally near ones the even one. -/
def roundDiv (num den : Nat) : Nat :=
  let q := num / den
  let r := num % den
  if 2 * r < den then q
  else if den < 2 * r then q + 1
  else if q % 2 = 0 then q else q + 1

/-- Half a unit is the most that rounding can lose. -/
theorem roundDiv_near (num den : Nat) (h : 0 < den) :
    2 * (roundDiv num den * den) ≤ 2 * num + den ∧ 2 * num ≤ 2 * (roundDiv num den * den) + den := by
  have hd := Nat.div_add_mod num den
  have hr := Nat.mod_lt num h
  have hc : num / den * den = den * (num / den) := Nat.mul_comm _ _
  unfold roundDiv
  dsimp only
  split
  · omega
  · split
    · rw [Nat.add_mul]; omega
    · split
      · omega
      · rw [Nat.add_mul]; omega

/-- The digits of a natural number. -/
def digits (n : Nat) : String := String.ofList (Nat.toDigits 10 n)

def padZeros (width : Nat) (s : String) : String :=
  String.ofList (List.replicate (width - s.length) '0') ++ s

/-- `units` counts units of the last place. -/
def placeText (places units : Nat) : String :=
  if places = 0 then digits units
  else
    let unit := Nat.pow 10 places
    digits (units / unit) ++ "." ++ padZeros places (digits (units % unit))

def Dyadic.fixed (places : Nat) (d : Dyadic) : String :=
  (if d.negative then "-" else "") ++
    placeText places (roundDiv (d.numerator * Nat.pow 10 places) d.denominator)

/-- The sign of a negative zero is kept. -/
def fixed (places : Nat) (x : Float) : String :=
  match Magnitude.ofFloat x with
  | .finite d => d.fixed places
  | .infinite negative => if negative then "-inf" else "inf"
  | .notANumber => "NaN"

end TrafficWatch.Decimal
