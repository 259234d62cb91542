import Mathlib.Algebra.Order.Field.Rat
import Mathlib.Data.Rat.Cast.Order
import Mathlib.Tactic.FieldSimp
import Mathlib.Tactic.Linarith
import Mathlib.Tactic.NormNum
import Mathlib.Tactic.Positivity
import Mathlib.Tactic.Ring
import TrafficWatch.Decimal.Literal
import TrafficWatch.Proofs.Decimal.Digits

/-!
Decimal texts of a fixed number of places, read again. The number that is read is the one that was
written up to half a unit of the last place, and it is on the same side of every whole number, if it
does not become that number.
-/

namespace TrafficWatch.Decimal

/-! ## Rounding a quotient -/

section Quotient

variable {num den c : Nat}

theorem roundDiv_le (hden : 0 < den) (h : num ≤ c * den) : roundDiv num den ≤ c := by
  have hnear := (roundDiv_near num den hden).1
  by_contra hc
  have hstep : (c + 1) * den ≤ roundDiv num den * den := Nat.mul_le_mul_right den (by omega)
  rw [Nat.add_mul] at hstep
  omega

theorem le_roundDiv (hden : 0 < den) (h : c * den ≤ num) : c ≤ roundDiv num den := by
  have hnear := (roundDiv_near num den hden).2
  by_contra hc
  have hstep : (roundDiv num den + 1) * den ≤ c * den := Nat.mul_le_mul_right den (by omega)
  rw [Nat.add_mul] at hstep
  omega

/-- Half a unit below an even number is rounded up. -/
theorem roundDiv_tie (hden : 0 < den) (hc : c % 2 = 0) (h : 2 * num + den = 2 * (c * den)) :
    roundDiv num den = c := by
  cases c with
  | zero => omega
  | succ b =>
    have hsucc : (b + 1) * den = b * den + den := Nat.succ_mul b den
    have hquotient : num / den = b := by
      rw [Nat.div_eq_iff hden]
      omega
    have hdiv := Nat.div_add_mod num den
    rw [hquotient, Nat.mul_comm] at hdiv
    rw [roundDiv, hquotient, if_neg (by omega), if_neg (by omega), if_neg (by omega)]

theorem roundDiv_lt_iff (hden : 0 < den) (hc : c % 2 = 0) :
    roundDiv num den < c ↔ 2 * num + den < 2 * (c * den) := by
  obtain ⟨hlow, hhigh⟩ := roundDiv_near num den hden
  constructor
  · intro hlt
    have hstep : (roundDiv num den + 1) * den ≤ c * den := Nat.mul_le_mul_right den hlt
    rw [Nat.succ_mul] at hstep
    have hne : 2 * num + den ≠ 2 * (c * den) := fun h => hlt.ne (roundDiv_tie hden hc h)
    omega
  · intro hlt
    exact Nat.lt_of_mul_lt_mul_right (a := den) (by omega)

end Quotient

/-! ## Values -/

def Dyadic.value (d : Dyadic) : ℚ := (if d.negative then -1 else 1) * (d.mantissa * 2 ^ d.exponent)

def Scientific.value (s : Scientific) : ℚ := s.coefficient * 10 ^ s.exponent

/-- The number `m * 2 ^ e`. -/
def Dyadic.positive (m : Nat) (e : Int) : Dyadic := ⟨false, m, e⟩

@[simp]
theorem Dyadic.negative_positive (m : Nat) (e : Int) : (positive m e).negative = false := rfl

/-- The nearest number of that many places. -/
def Dyadic.rounded (d : Dyadic) (places : Nat) : Scientific :=
  ⟨roundDiv (d.numerator * Nat.pow 10 places) d.denominator, -places⟩

section Rounded

variable {d : Dyadic} {places c : Nat}

theorem Dyadic.value_rounded : (d.rounded places).value =
    roundDiv (d.numerator * 10 ^ places) d.denominator / 10 ^ places := by
  rw [Scientific.value, Dyadic.rounded, zpow_neg, zpow_natCast]
  rfl

theorem Dyadic.value_eq (hd : d.negative = false) : d.value = d.numerator / d.denominator := by
  obtain ⟨negative, m, e⟩ := d
  obtain rfl : negative = false := hd
  have hpow : (2 : ℚ) ^ e = 2 ^ e.toNat / 2 ^ (-e).toNat := by
    rw [← zpow_natCast, ← zpow_natCast, ← zpow_sub₀ (by decide)]
    congr 1
    omega
  simp [value, numerator, denominator, hpow, mul_div_assoc]

theorem Dyadic.value_positive (m : Nat) (e : Int) : (positive m e).value = m * 2 ^ e :=
  one_mul _

theorem Dyadic.numerator_of_nonpos (h : d.exponent ≤ 0) : d.numerator = d.mantissa := by
  rw [numerator, Int.toNat_of_nonpos h]
  exact Nat.mul_one _

/-- A number with zeros behind its point. -/
theorem Dyadic.value_whole (n : Nat) {e : Int} (he : e ≤ 0) :
    (positive (n * 2 ^ (-e).toNat) e).value = n := by
  have hden : ((positive (n * 2 ^ (-e).toNat) e).denominator : ℚ) ≠ 0 :=
    Nat.cast_ne_zero.mpr (denominator_pos _).ne'
  rw [value_eq rfl, numerator_of_nonpos he, div_eq_iff hden]
  exact Nat.cast_mul n _

/-- Rounding loses half a unit at most. -/
theorem Dyadic.rounded_near (hd : d.negative = false) (places : Nat) :
    |(d.rounded places).value - d.value| ≤ 1 / 2 * (1 / 10 ^ places) := by
  obtain ⟨hlow, hhigh⟩ :=
    roundDiv_near (d.numerator * 10 ^ places) d.denominator d.denominator_pos
  have hden : (0 : ℚ) < d.denominator := Nat.cast_pos.mpr d.denominator_pos
  have hten : (0 : ℚ) < 10 ^ places := by positivity
  rw [value_rounded, value_eq hd]
  generalize roundDiv (d.numerator * 10 ^ places) d.denominator = r at hlow hhigh ⊢
  have hlow' : 2 * ((r : ℚ) * d.denominator) ≤ 2 * (d.numerator * 10 ^ places) + d.denominator := by
    exact_mod_cast hlow
  have hhigh' : 2 * (d.numerator * 10 ^ places : ℚ) ≤ 2 * (r * d.denominator) + d.denominator := by
    exact_mod_cast hhigh
  have hunit : 1 / 2 * (1 / (10 : ℚ) ^ places) * (10 ^ places * d.denominator) =
      d.denominator / 2 := by
    field_simp
  rw [div_sub_div _ _ hten.ne' hden.ne', abs_div, abs_of_pos (mul_pos hten hden),
    div_le_iff₀ (mul_pos hten hden), hunit, abs_le]
  constructor <;> linarith only [hlow', hhigh']

theorem Dyadic.rounded_le (hd : d.negative = false) (places : Nat) (h : d.value ≤ c) :
    (d.rounded places).value ≤ c := by
  have hden : (0 : ℚ) < d.denominator := Nat.cast_pos.mpr d.denominator_pos
  rw [value_eq hd, div_le_iff₀ hden] at h
  have hnum : d.numerator ≤ c * d.denominator := by exact_mod_cast h
  have hround : roundDiv (d.numerator * 10 ^ places) d.denominator ≤ c * 10 ^ places :=
    roundDiv_le d.denominator_pos (by
      rw [Nat.mul_right_comm]
      exact Nat.mul_le_mul_right _ hnum)
  rw [value_rounded, div_le_iff₀ (by positivity)]
  exact_mod_cast hround

theorem Dyadic.le_rounded (hd : d.negative = false) (places : Nat) (h : c ≤ d.value) :
    c ≤ (d.rounded places).value := by
  have hden : (0 : ℚ) < d.denominator := Nat.cast_pos.mpr d.denominator_pos
  rw [value_eq hd, le_div_iff₀ hden] at h
  have hnum : c * d.denominator ≤ d.numerator := by exact_mod_cast h
  have hround : c * 10 ^ places ≤ roundDiv (d.numerator * 10 ^ places) d.denominator :=
    le_roundDiv d.denominator_pos (by
      rw [Nat.mul_right_comm]
      exact Nat.mul_le_mul_right _ hnum)
  rw [value_rounded, le_div_iff₀ (by positivity)]
  exact_mod_cast hround

/-- What is written is below an even number if the value is below it by more than half a unit. -/
theorem Dyadic.rounded_lt_iff (hd : d.negative = false) (places : Nat) (hc : c % 2 = 0) :
    (d.rounded places).value < c ↔ d.value < c - 1 / 2 * (1 / 10 ^ places) := by
  have hden : (0 : ℚ) < d.denominator := Nat.cast_pos.mpr d.denominator_pos
  have hten : (0 : ℚ) < 10 ^ places := by positivity
  have heven : c * 10 ^ places % 2 = 0 := by rw [Nat.mul_mod, hc, Nat.zero_mul, Nat.zero_mod]
  have hunit : (c - 1 / 2 * (1 / (10 : ℚ) ^ places)) * d.denominator =
      (2 * (c * 10 ^ places * d.denominator) - d.denominator) / (2 * 10 ^ places) := by
    field_simp
  calc (d.rounded places).value < c
      ↔ roundDiv (d.numerator * 10 ^ places) d.denominator < c * 10 ^ places := by
        rw [value_rounded, div_lt_iff₀ hten]
        norm_cast
    _ ↔ 2 * (d.numerator * 10 ^ places : ℚ) + d.denominator <
          2 * (c * 10 ^ places * d.denominator) := by
        rw [roundDiv_lt_iff d.denominator_pos heven]
        norm_cast
    _ ↔ d.value < c - 1 / 2 * (1 / 10 ^ places) := by
        rw [value_eq hd, div_lt_iff₀ hden, hunit, lt_div_iff₀ (by positivity)]
        constructor <;> intro h <;> linarith only [h]

end Rounded

/-! ## Reading -/

theorem digitsValue_eq (cs : List Char) : digitsValue cs = Nat.ofDigitChars 10 cs 0 := by
  rw [Nat.ofDigitChars_eq_foldl]
  rfl

theorem ofText?_of_digits {ds : List Char} (hds : ∀ c ∈ ds, c.isDigit = true) (hne : ds ≠ []) :
    Scientific.ofText? ds = some ⟨Nat.ofDigitChars 10 ds 0, 0⟩ := by
  have htake : ds.takeWhile Char.isDigit = ds := List.takeWhile_eq_self_iff.mpr hds
  have hdrop : ds.dropWhile Char.isDigit = [] := List.dropWhile_eq_nil_iff.mpr hds
  simp [Scientific.ofText?, htake, hdrop, hne, readExponent, digitsValue_eq]

theorem ofText?_of_point {ds fs : List Char} (hds : ∀ c ∈ ds, c.isDigit = true)
    (hfs : ∀ c ∈ fs, c.isDigit = true) (hne : ds ≠ []) : Scientific.ofText? (ds ++ '.' :: fs) =
      some ⟨Nat.ofDigitChars 10 (ds ++ fs) 0, -fs.length⟩ := by
  have htake : (ds ++ '.' :: fs).takeWhile Char.isDigit = ds :=
    takeWhile_digits hds (noDigitNext_cons (by decide) fs)
  have hdrop : (ds ++ '.' :: fs).dropWhile Char.isDigit = '.' :: fs :=
    dropWhile_digits hds (noDigitNext_cons (by decide) fs)
  have htake' : fs.takeWhile Char.isDigit = fs := List.takeWhile_eq_self_iff.mpr hfs
  have hdrop' : fs.dropWhile Char.isDigit = [] := List.dropWhile_eq_nil_iff.mpr hfs
  simp [Scientific.ofText?, htake, hdrop, htake', hdrop', hne, readExponent, digitsValue_eq]

theorem ofText?_digits (n : Nat) : Scientific.ofText? (digits n).toList = some ⟨n, 0⟩ := by
  rw [toList_digits, ofText?_of_digits (fun _ => isDigit_of_mem_toDigits) Nat.toDigits_ne_nil,
    Nat.ofDigitChars_ten_toDigits]

theorem ofText?_placeText (places units : Nat) :
    Scientific.ofText? (placeText places units).toList = some ⟨units, -places⟩ := by
  by_cases hplaces : places = 0
  · subst hplaces
    rw [placeText, if_pos rfl, ofText?_digits]
    rfl
  have htext : (placeText places units).toList =
      Nat.toDigits 10 (units / 10 ^ places) ++ '.' :: padded places (units % 10 ^ places) := by
    rw [placeText, if_neg hplaces]
    simp [padded, toList_digits]
  have hlength : (padded places (units % 10 ^ places)).length = places :=
    length_padded (by omega) (Nat.mod_lt _ (by positivity))
  have hvalue : Nat.ofDigitChars 10 (Nat.toDigits 10 (units / 10 ^ places) ++
      padded places (units % 10 ^ places)) 0 = units := by
    rw [Nat.ofDigitChars_append, Nat.ofDigitChars_ten_toDigits,
      Nat.ofDigitChars_eq_ofDigitChars_zero, hlength, ofDigitChars_padded, Nat.div_add_mod]
  rw [htext, ofText?_of_point (fun _ => isDigit_of_mem_toDigits) (fun _ => isDigit_of_mem_padded)
    Nat.toDigits_ne_nil, hvalue, hlength]

/-- What was written is read again. -/
theorem ofText?_fixed {d : Dyadic} (hd : d.negative = false) (places : Nat) :
    Scientific.ofText? (d.fixed places).toList = some (d.rounded places) := by
  have hsign : d.fixed places =
      placeText places (roundDiv (d.numerator * Nat.pow 10 places) d.denominator) := by
    rw [Dyadic.fixed, hd]
    exact String.empty_append
  rw [hsign, ofText?_placeText]
  rfl

end TrafficWatch.Decimal
