import TrafficWatch.Proofs.Decimal.Doubles
import TrafficWatch.Render

/-!
Numbers of bytes as they are shown. The unit is chosen by exact divisions of the double, and the
digits are rounded after that: so what is shown is near the number and in the unit that the number
has reached, but just below the next unit it reads 1024.
-/

namespace TrafficWatch

open Decimal

namespace Render

variable {x : Float} {m : Nat} {e : Int}

theorem value_mul_pow (m k : Nat) (e : Int) :
    (Dyadic.positive m e).value = (Dyadic.positive m (e - 10 * k)).value * 1024 ^ k := by
  have hpow : (1024 : ℚ) ^ k = 2 ^ (10 * k : Int) := by
    rw [zpow_mul, zpow_natCast]
    norm_num
  rw [Dyadic.value_positive, Dyadic.value_positive, hpow, mul_assoc, ← zpow_add₀ two_ne_zero,
    sub_add_cancel]

theorem value_lt_1024 (hm : m < 2 ^ 53) (he : e < -42) : (Dyadic.positive m e).value < 1024 := by
  have hm' : (m : ℚ) < 2 ^ (53 : Int) := by exact_mod_cast hm
  rw [Dyadic.value_positive]
  calc (m : ℚ) * 2 ^ e < 2 ^ (53 : Int) * 2 ^ e := mul_lt_mul_of_pos_right hm' (by positivity)
    _ = 2 ^ (53 + e) := (zpow_add₀ two_ne_zero _ _).symm
    _ ≤ 2 ^ (10 : Int) := zpow_le_zpow_right₀ one_le_two (by omega)
    _ = 1024 := by norm_num

theorem one_le_value (hm : Filled m) (he : -52 ≤ e) : 1 ≤ (Dyadic.positive m e).value :=
  le_trans (one_le_zpow₀ (n := 52 + e) one_le_two (by omega)) (hm.value e).1

/-- The powers of two that a unit spans are those of ten exponents. -/
theorem full_1024 : Full 1024 (2 ^ 52) (-42) := ⟨⟨Nat.le_refl _, by decide⟩, rfl⟩

/-- Units are passed as long as the next one is reached; each one takes ten off the exponent. -/
theorem exists_scale (units : List String) (hunits : units ≠ []) (h : Full x m e)
    (hhigh : e ≤ 971) : ∃ (k : Nat) (y : Float) (unit : String), units[k]? = some unit ∧
      scale units x = (y, unit) ∧ Full y m (e - 10 * k) ∧
      (k + 1 < units.length → e - 10 * k < -42) ∧ (k = 0 ∨ -52 ≤ e - 10 * k) := by
  induction units generalizing x e with
  | nil => exact absurd rfl hunits
  | cons unit units ih =>
    cases units with
    | nil => exact ⟨0, x, unit, rfl, rfl, by simpa using h, by simp, .inl rfl⟩
    | cons next units =>
      rw [scale]
      by_cases hreached : -42 ≤ e
      · rw [if_pos ((h.le_iff full_1024).mpr hreached)]
        obtain ⟨k, y, unit', hunit, hscale, hy, hbelow, hfirst⟩ :=
          ih (List.cons_ne_nil _ _) (h.div full_1024 (by omega) (by omega)) (by omega)
        have hexponent : e - -42 - 52 - 10 * k = e - 10 * (k + 1 : Nat) := by omega
        rw [hexponent] at hy hbelow hfirst
        refine ⟨k + 1, y, unit', hunit, hscale, hy, fun hk => hbelow (Nat.lt_of_succ_lt_succ hk), ?_⟩
        right
        obtain rfl | hfirst := hfirst
        · omega
        · exact hfirst
      · rw [if_neg fun hle => hreached ((h.le_iff full_1024).mp hle)]
        exact ⟨0, x, unit, rfl, rfl, by simpa using h, fun _ => by omega, .inl rfl⟩

/-- What a number in the unit of that rank says of a number of bytes. -/
structure Says (s : Scientific) (k : Nat) (bytes : ℚ) : Prop where
  places : s.exponent = if k = 0 then 0 else -2
  within : bytes < 1024 ^ (k + 1)
  reached : 0 < k → 1024 ^ k ≤ bytes ∧ 1 ≤ s.value
  exact : k = 0 → s.value = bytes
  near : 0 < k → |s.value * 1024 ^ k - bytes| ≤ 1 / 2 * (1 / 100 * 1024 ^ k)
  most : s.value ≤ 1024
  /-- Rounding makes it 1024 from half a unit below on. -/
  below : s.value < 1024 ↔ bytes < (1024 - 1 / 200) * 1024 ^ k

/-- Below a kilobyte all digits are there. -/
theorem says_whole {n : Nat} (hn : n < 1024) : Says ⟨n, 0⟩ 0 n := by
  have hvalue : (⟨n, 0⟩ : Scientific).value = n := by simp [Scientific.value]
  have hn' : (n : ℚ) ≤ 1023 := by exact_mod_cast Nat.le_of_lt_succ hn
  refine ⟨rfl, by norm_num; linarith, fun h => absurd h (lt_irrefl 0), fun _ => hvalue,
    fun h => absurd h (lt_irrefl 0), by linarith, ?_⟩
  rw [hvalue]
  constructor <;> intro _ <;> linarith

/-- Exponents from -52 to -43 are those of the numbers from 1 up to 1024. -/
theorem says_rounded {f : Int} (hm : Filled m) (hlow : -52 ≤ f) (hhigh : f < -42) {k : Nat}
    (hk : 0 < k) {bytes : ℚ} (hbytes : bytes = (Dyadic.positive m f).value * 1024 ^ k) :
    Says ((Dyadic.positive m f).rounded 2) k bytes := by
  have hpow : (0 : ℚ) < 1024 ^ k := by positivity
  have hone := one_le_value hm hlow
  have hless := value_lt_1024 hm.small hhigh
  generalize hd : Dyadic.positive m f = d at hbytes hone hless ⊢
  have hpos : d.negative = false := hd ▸ rfl
  subst hbytes
  refine ⟨?places, ?within, fun _ => ⟨?reached, ?least⟩, fun h => absurd h hk.ne', fun _ => ?near,
    ?most, ?below⟩
  case places =>
    rw [if_neg hk.ne']
    rfl
  case within =>
    rw [pow_succ']
    exact mul_lt_mul_of_pos_right hless hpow
  case reached => exact le_mul_of_one_le_left hpow.le hone
  case least => exact_mod_cast Dyadic.le_rounded (c := 1) hpos 2 (by exact_mod_cast hone)
  case near =>
    have hnear := Dyadic.rounded_near hpos 2
    rw [← sub_mul, abs_mul, abs_of_pos hpow, ← mul_assoc]
    refine mul_le_mul_of_nonneg_right ?_ hpow.le
    norm_num at hnear ⊢
    exact hnear
  case most => exact_mod_cast Dyadic.rounded_le (c := 1024) hpos 2 (by exact_mod_cast hless.le)
  case below =>
    rw [mul_lt_mul_iff_left₀ hpow]
    have hiff := Dyadic.rounded_lt_iff (c := 1024) hpos 2 rfl
    norm_num at hiff ⊢
    exact hiff

section Whole

variable {n : UInt64} (h : Full x m e) (he : e < -42) (hm : m = n.toNat * 2 ^ (-e).toNat)

include h he hm

theorem lt_1024 : n.toNat < 1024 := by
  by_contra hlarge
  have hshift : 1024 * 2 ^ 43 ≤ n.toNat * 2 ^ (-e).toNat :=
    Nat.mul_le_mul (Nat.le_of_not_lt hlarge) (Nat.pow_le_pow_right (by decide) (by omega))
  have hsmall := h.filled.small
  omega

/-- The double is the count itself, so nothing is rounded. -/
theorem wholeBytes_eq : wholeBytes x = n := by
  have hpos : 0 < 2 ^ (-e).toNat := by positivity
  have he' : e ≤ 0 := by omega
  have hnum : (Dyadic.positive m e).numerator = m := Dyadic.numerator_of_nonpos he'
  have hden : (Dyadic.positive m e).denominator = 2 ^ (-e).toNat := rfl
  have hquotient : (2 * m + 2 ^ (-e).toNat) / (2 * 2 ^ (-e).toNat) = n.toNat := by
    have hswap : n.toNat * (2 * 2 ^ (-e).toNat) = 2 * m := by rw [hm, Nat.mul_left_comm]
    rw [Nat.div_eq_iff (by omega)]
    omega
  rw [wholeBytes, h.magnitude]
  simp only [Dyadic.negative_positive, hnum, hden, hquotient]
  rw [if_neg Bool.false_ne_true, UInt64.ofNatClamp_eq_ofNat _ n.toNat_lt, UInt64.ofNat_toNat]

theorem traffic_whole : traffic x = digits n.toNat ++ " " ++ "B" := by
  rw [traffic, if_pos (by simp [(h.lt_iff full_1024).mpr he]), wholeBytes_eq h he hm,
    String.append_assoc]
  rfl

end Whole

theorem traffic_scaled {y : Float} {unit : String} (h : Full x m e) (he : -42 ≤ e)
    (hscale : scale trafficUnits x = (y, unit)) : traffic x = fixed 2 y ++ " " ++ unit := by
  rw [traffic, if_neg, hscale]
  simp [h.isFinite, h.lt_iff full_1024, he]

/-- What is shown for a count. It is below 1024 in its unit unless rounding makes it that. -/
theorem traffic_account (n : UInt64) :
    ∃ (d : Decimal.Dyadic) (k : Nat) (unit text : String) (s : Scientific),
      Magnitude.ofFloat n.toFloat = .finite d ∧ trafficUnits[k]? = some unit ∧
        traffic n.toFloat = text ++ " " ++ unit ∧ Scientific.ofText? text.toList = some s ∧
        Says s k d.value := by
  by_cases hn : n = 0
  · subst hn
    have hzero : (Dyadic.positive 0 (-1074)).value = (0 : Nat) := by
      rw [Dyadic.value_positive, Nat.cast_zero, zero_mul]
    exact ⟨.positive 0 (-1074), 0, "B", "0", ⟨0, 0⟩, rfl, rfl, by decide +kernel, by decide +kernel,
      hzero ▸ says_whole (by decide)⟩
  obtain ⟨m, e, hfull, hlow, hhigh, hexact⟩ := exists_full_toFloat hn
  by_cases hsmall : e < -42
  · have hm := hexact (by omega)
    have hvalue : (Dyadic.positive m e).value = n.toNat := by
      rw [hm, Dyadic.value_whole _ (by omega)]
    exact ⟨.positive m e, 0, "B", digits n.toNat, ⟨n.toNat, 0⟩, hfull.magnitude, rfl,
      traffic_whole hfull hsmall hm, ofText?_digits _, hvalue ▸ says_whole (lt_1024 hfull hsmall hm)⟩
  · obtain ⟨k, y, unit, hunit, hscale, hy, hbelow, hfirst⟩ :=
      exists_scale trafficUnits (by decide) hfull (by omega)
    have hrank : k < 7 := (List.getElem?_eq_some_iff.mp hunit).1
    -- No count has an exponent that even the last unit leaves at 1024 or more.
    have hlimit : e - 10 * k < -42 := by
      by_cases hlast : k = 6
      · omega
      · exact hbelow (show k + 1 < 7 by omega)
    have hk : 0 < k := by omega
    have htext : Scientific.ofText? (fixed 2 y).toList =
        some ((Dyadic.positive m (e - 10 * k)).rounded 2) := by
      rw [fixed, hy.magnitude]
      exact ofText?_fixed rfl 2
    exact ⟨.positive m e, k, unit, fixed 2 y, _, hfull.magnitude, hunit,
      traffic_scaled hfull (by omega) hscale, htext,
      says_rounded hfull.filled (hfirst.resolve_left hk.ne') hlimit hk (value_mul_pow m k e)⟩

/-- The greatest count below a megabyte is rounded after its unit is chosen. -/
theorem traffic_below_megabyte :
    Magnitude.ofFloat (1048575 : UInt64).toFloat = .finite (.positive (1048575 * 2 ^ 33) (-33)) ∧
      traffic (1048575 : UInt64).toFloat = "1024.00" ++ " " ++ "KB" ∧
      Scientific.ofText? "1024.00".toList = some ⟨102400, -2⟩ ∧
      ¬ (⟨102400, -2⟩ : Scientific).value < 1024 := by
  refine ⟨by decide +kernel, by decide +kernel, by decide +kernel, ?_⟩
  rw [Scientific.value]
  norm_num

end Render

end TrafficWatch
