import TrafficWatch.Proofs.Traffic

/-!
How many characters amounts, speeds and ages take. In its unit an amount is below 1024, so it has four
digits before its point at most; it has four of them from half a hundredth below a thousand on.
-/

namespace TrafficWatch

namespace Decimal

theorem length_digits_le {n k : Nat} (hk : 0 < k) : (digits n).length ≤ k ↔ n < 10 ^ k := by
  rw [← String.length_toList, toList_digits, Nat.length_toDigits_le_iff (by decide) hk]

theorem length_placeText {places : Nat} (h : 0 < places) (units : Nat) :
    (placeText places units).length = (digits (units / 10 ^ places)).length + 1 + places := by
  have hplaces : (padZeros places (digits (units % 10 ^ places))).length = places := by
    rw [← String.length_toList]
    exact length_padded h (Nat.mod_lt _ (by positivity))
  rw [placeText, if_neg h.ne', String.length_append, String.length_append]
  exact congrArg _ hplaces

theorem Dyadic.length_fixed {d : Dyadic} (hd : d.negative = false) :
    (d.fixed 2).length = (digits ((d.rounded 2).coefficient / 100)).length + 3 := by
  have hsign : d.fixed 2 = placeText 2 (d.rounded 2).coefficient := by
    rw [Dyadic.fixed, hd]
    exact String.empty_append
  rw [hsign, length_placeText (by decide)]
  rfl

theorem Dyadic.rounded_two_lt_iff {d : Dyadic} {c : Nat} :
    (d.rounded 2).value < c ↔ (d.rounded 2).coefficient / 100 < c := by
  have hvalue : (d.rounded 2).value = ((d.rounded 2).coefficient : ℚ) / 100 := by
    rw [value_rounded]
    norm_num
    rfl
  rw [hvalue, div_lt_iff₀ (by norm_num), Nat.div_lt_iff_lt_mul (by decide)]
  exact_mod_cast Iff.rfl

/-- Four digits before the point come from rounding, too. -/
theorem Dyadic.length_fixed_le {d : Dyadic} (hd : d.negative = false) (hless : d.value < 1024) :
    (d.fixed 2).length ≤ 7 ∧ ((d.fixed 2).length ≤ 6 ↔ d.value < 1000 - 1 / 200) := by
  have hmost : (d.rounded 2).value < (1025 : Nat) := by
    have hle := Dyadic.rounded_le (c := 1024) hd 2 (by exact_mod_cast hless.le)
    exact lt_of_le_of_lt hle (by norm_num)
  have hiff := Dyadic.rounded_lt_iff (c := 1000) hd 2 rfl
  rw [rounded_two_lt_iff] at hmost hiff
  have hthree := length_digits_le (n := (d.rounded 2).coefficient / 100) (k := 3) (by decide)
  have hfour := length_digits_le (n := (d.rounded 2).coefficient / 100) (k := 4) (by decide)
  norm_num at hiff
  rw [length_fixed hd]
  constructor
  · have := hfour.mpr (by omega)
    omega
  · rw [show (1000 - 1 / 200 : ℚ) = 199999 / 200 by norm_num, ← hiff]
    omega

end Decimal

open Decimal Tracking

namespace Render

/-- An amount that is shown with four digits before the point, and not in whole bytes. -/
def FourDigits (bytes : ℚ) : Prop :=
  ∃ k, 0 < k ∧ (1000 - 1 / 200) * 1024 ^ k ≤ bytes ∧ bytes < 1024 ^ (k + 1)

variable {x : Float} {m : Nat} {e : Int} {hm : 0 < m}

/-- The unit is the one that the amount has reached. -/
theorem fourDigits_iff {v : ℚ} {k : Nat} (hk : 0 < k) (hone : 1 ≤ v) (hless : v < 1024) :
    FourDigits (v * 1024 ^ k) ↔ 1000 - 1 / 200 ≤ v := by
  have hpow (n : Nat) : (0 : ℚ) < 1024 ^ n := by positivity
  constructor
  · rintro ⟨j, hj, hlow, hhigh⟩
    have hjk : j < k + 1 := by
      by_contra hlarge
      have hle : (1024 : ℚ) ^ (k + 1) ≤ 1024 ^ j := pow_le_pow_right₀ (by norm_num) (by omega)
      have hsmall : v * 1024 ^ k < 1024 ^ (k + 1) := by
        rw [pow_succ']
        exact mul_lt_mul_of_pos_right hless (hpow k)
      have := hpow j
      linarith
    have hkj : k < j + 1 := by
      by_contra hlarge
      have hle : (1024 : ℚ) ^ (j + 1) ≤ 1024 ^ k := pow_le_pow_right₀ (by norm_num) (by omega)
      have hlarge : (1024 : ℚ) ^ k ≤ v * 1024 ^ k := le_mul_of_one_le_left (hpow k).le hone
      linarith
    obtain rfl : j = k := by omega
    exact le_of_mul_le_mul_right hlow (hpow j)
  · intro hv
    refine ⟨k, hk, mul_le_mul_of_nonneg_right hv (hpow k).le, ?_⟩
    rw [pow_succ']
    exact mul_lt_mul_of_pos_right hless (hpow k)

theorem length_unit {k : Nat} {unit : String} (hk : 0 < k) (h : trafficUnits[k]? = some unit) :
    unit.length = 2 := by
  have hrank : k < 7 := (List.getElem?_eq_some_iff.mp h).1
  interval_cases k <;> cases h <;> decide

/-- In whole bytes there are at most four digits. -/
theorem length_traffic_whole (hu : x.toModel.unpack = .finite .positive m e hm)
    (hsmall : m < 2 ^ 53) (he : e < -42) : (traffic x).length ≤ 6 := by
  have hless : x < 1024 := lt_of_exponent_lt hu full_1024.unpacked he
  have hexponent : e ≤ 0 := by omega
  have hnum : (Dyadic.positive m e).numerator = m := Dyadic.numerator_of_nonpos hexponent
  have hden : (Dyadic.positive m e).denominator = 2 ^ (-e).toNat := rfl
  have hbound : 2 ^ 43 ≤ 2 ^ (-e).toNat := Nat.pow_le_pow_right (by decide) (by omega)
  have hquotient : (2 * m + 2 ^ (-e).toNat) / (2 * 2 ^ (-e).toNat) < 1025 := by
    rw [Nat.div_lt_iff_lt_mul (by omega)]
    omega
  have hwhole : (wholeBytes x).toNat < 1025 := by
    rw [wholeBytes, (magnitude_of_unpack hu).1]
    simp only [Dyadic.negative_positive, hnum, hden]
    have hsize := Nat.lt_trans hquotient (show 1025 < UInt64.size by decide)
    rw [if_neg Bool.false_ne_true, UInt64.ofNatClamp_eq_ofNat _ hsize,
      UInt64.toNat_ofNat_of_lt' hsize]
    exact hquotient
  have hdigits := (length_digits_le (n := (wholeBytes x).toNat) (k := 4) (by decide)).mpr (by omega)
  have htext : traffic x = digits (wholeBytes x).toNat ++ " B" := by
    rw [traffic, if_pos (by simp [hless])]
    rfl
  rw [htext, String.length_append]
  exact Nat.add_le_add_right hdigits 2

/-- An amount below 1024 of the last unit takes ten characters at most, and all ten of them only with
four digits before the point. -/
theorem length_traffic (hu : x.toModel.unpack = .finite .positive m e hm)
    (hlimit : (Dyadic.positive m e).value < 1024 ^ 7) : (traffic x).length ≤ 10 ∧
      ((traffic x).length ≤ 9 ↔ ¬ FourDigits (Dyadic.positive m e).value) := by
  obtain ⟨-, hform⟩ := magnitude_of_unpack hu
  by_cases he : e < -42
  · have hsmall : m < 2 ^ 53 := by
      obtain hfilled | ⟨hleast, -⟩ := hform
      · exact hfilled.small
      · omega
    have hlength := length_traffic_whole hu hsmall he
    refine ⟨by omega, iff_of_true (by omega) ?_⟩
    rintro ⟨k, hk, hlow, -⟩
    have hless := value_lt_1024 hsmall he
    have hpow : (1024 : ℚ) ≤ 1024 ^ k := le_self_pow₀ (by norm_num) hk.ne'
    linarith
  · have hfilled : Filled m := hform.resolve_right fun h => he (by omega)
    have hx : Full x m e := ⟨hfilled, hu⟩
    have hhigh : e < 18 := by
      have hpow : (2 : ℚ) ^ (52 + e) < 2 ^ (70 : Int) := by
        calc (2 : ℚ) ^ (52 + e) ≤ (Dyadic.positive m e).value := (hfilled.value e).1
          _ < 1024 ^ 7 := hlimit
          _ = 2 ^ (70 : Int) := by norm_num
      have := (zpow_lt_zpow_iff_right₀ (one_lt_two (α := ℚ))).mp hpow
      omega
    obtain ⟨k, y, unit, hunit, hscale, hy, hbelow, hfirst⟩ :=
      exists_scale trafficUnits (by decide) hx (by omega)
    have hrank : k < 7 := (List.getElem?_eq_some_iff.mp hunit).1
    have hrange : e - 10 * k < -42 := by
      by_cases hlast : k = 6
      · omega
      · exact hbelow (show k + 1 < 7 by omega)
    have hk : 0 < k := by omega
    have hone := one_le_value hfilled (hfirst.resolve_left hk.ne')
    have hless := value_lt_1024 hfilled.small hrange
    have htext : traffic x = (Dyadic.positive m (e - 10 * k)).fixed 2 ++ " " ++ unit := by
      rw [traffic_scaled hx (by omega) hscale, fixed, hy.magnitude]
    have hlength : (traffic x).length = ((Dyadic.positive m (e - 10 * k)).fixed 2).length + 3 := by
      rw [htext, String.length_append, String.length_append, length_unit hk hunit]
      rfl
    obtain ⟨hmost, hiff⟩ := Dyadic.length_fixed_le rfl hless
    rw [value_mul_pow m k e, fourDigits_iff hk hone hless, not_le, ← hiff, hlength]
    omega

/-- Of every count there are ten characters at most. -/
theorem length_traffic_count (n : UInt64) : (traffic n.toFloat).length ≤ 10 := by
  by_cases hn : n = 0
  · subst hn
    decide +kernel
  · obtain ⟨m, e, hfull, -, hhigh, -⟩ := exists_full_toFloat hn
    refine (length_traffic hfull.unpacked ?_).1
    calc (Dyadic.positive m e).value < 2 ^ (53 + e) := (hfull.filled.value e).2
      _ ≤ 2 ^ (70 : Int) := zpow_le_zpow_right₀ one_le_two (by omega)
      _ = 1024 ^ 7 := by norm_num

/-! ## Speeds and ages -/

/-- The amount that a positive double is. -/
def Amounts (x : Float) (bytes : ℚ) : Prop :=
  0 < x ∧ ∃ d, Magnitude.ofFloat x = .finite d ∧ d.value = bytes

/-- If there is any traffic, it is below 1024 of the last unit. -/
def Moderate (x : Float) : Prop := 0 < x → ∃ bytes, Amounts x bytes ∧ bytes < 1024 ^ 7

/-- There is traffic, and it takes four digits before the point. -/
def Wide (x : Float) : Prop := ∃ bytes, Amounts x bytes ∧ FourDigits bytes

theorem Wide.pos (h : Wide x) : 0 < x := h.choose_spec.1.1

theorem length_traffic_moderate (hpos : 0 < x) (h : Moderate x) :
    (traffic x).length ≤ 10 ∧ ((traffic x).length ≤ 9 ↔ ¬ Wide x) := by
  obtain ⟨bytes, ⟨-, d, hd, rfl⟩, hlimit⟩ := h hpos
  obtain ⟨m, e, hm, hu⟩ := exists_unpack hpos (isFinite_of_magnitude hd)
  have hmagnitude := (magnitude_of_unpack hu).1
  obtain rfl : .positive m e = d := Magnitude.finite.inj (hmagnitude.symm.trans hd)
  obtain ⟨hmost, hiff⟩ := length_traffic hu hlimit
  have hwide : Wide x ↔ FourDigits (Dyadic.positive m e).value := by
    constructor
    · rintro ⟨bytes, ⟨-, d', hd', rfl⟩, hfour⟩
      rwa [Magnitude.finite.inj (hmagnitude.symm.trans hd')]
    · exact fun hfour => ⟨_, ⟨hpos, _, hd, rfl⟩, hfour⟩
  exact ⟨hmost, hiff.trans (not_congr hwide).symm⟩

theorem length_speed (s : Speed) : (speed s).length =
    if 0 < s.upload then
      if 0 < s.download then (traffic s.upload).length + (traffic s.download).length + 9
      else (traffic s.upload).length + 4
    else if 0 < s.download then (traffic s.download).length + 4
    else 1 := by
  have hup : "↑ ".length = 2 := by decide
  have hdown : "↓ ".length = 2 := by decide
  have hsecond : "/s".length = 2 := by decide
  have hblank : " ".length = 1 := by decide
  unfold speed
  by_cases hu : 0 < s.upload <;> by_cases hd : 0 < s.download <;>
    simp only [hu, hd, decide_true, decide_false, if_true, if_false, String.length_append, hup,
      hdown, hsecond, hblank]
  · omega
  · omega
  · omega
  · decide

/-- The column of speeds is too narrow for two directions with four digits before the point each, and
for nothing else. -/
theorem speed_fits_iff {s : Speed} (hup : Moderate s.upload) (hdown : Moderate s.download) :
    (speed s).length ≤ 28 ↔ ¬ (Wide s.upload ∧ Wide s.download) := by
  rw [length_speed]
  by_cases hu : 0 < s.upload <;> by_cases hd : 0 < s.download
  · obtain ⟨hmost, hiff⟩ := length_traffic_moderate hu hup
    obtain ⟨hmost', hiff'⟩ := length_traffic_moderate hd hdown
    rw [if_pos hu, if_pos hd, not_and_or, ← hiff, ← hiff']
    omega
  · have hmost := (length_traffic_moderate hu hup).1
    rw [if_pos hu, if_neg hd]
    exact iff_of_true (by omega) fun h => hd h.2.pos
  · have hmost := (length_traffic_moderate hd hdown).1
    rw [if_neg hu, if_pos hd]
    exact iff_of_true (by omega) fun h => hu h.1.pos
  · rw [if_neg hu, if_neg hd]
    exact iff_of_true (by decide) fun h => hu h.1.pos

/-- The column of ages is too narrow for ten thousand days. -/
theorem age_fits_iff {seconds : Int} (h : 0 ≤ seconds) :
    (age seconds).length ≤ 5 ↔ seconds < 10000 * 86400 := by
  obtain ⟨n, rfl⟩ := Int.eq_ofNat_of_zero_le h
  have hfits (n : Nat) (unit : String) (hunit : unit.length = 1) :
      (toString (n : Int) ++ unit).length ≤ 5 ↔ n < 10000 := by
    have hdigits : (toString (n : Int)).length ≤ 4 ↔ n < 10 ^ 4 := length_digits_le (by decide)
    rw [String.length_append, hunit]
    omega
  unfold age
  split
  · rw [max_eq_right h, hfits n "s" (by decide)]
    omega
  split
  · rw [show (n : Int) / 60 = (n / 60 : Nat) from rfl, hfits (n / 60) "m" (by decide)]
    omega
  split
  · rw [show (n : Int) / 3600 = (n / 3600 : Nat) from rfl, hfits (n / 3600) "h" (by decide)]
    omega
  · rw [show (n : Int) / 86400 = (n / 86400 : Nat) from rfl, hfits (n / 86400) "d" (by decide)]
    omega

end Render

end TrafficWatch
