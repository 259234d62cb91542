import Mathlib
import TrafficWatch.Proofs.Decimal.Places

/-!
Doubles in the ranges that counts are in. Their mantissas are filled up to 53 binary digits, so the
greater exponent tells the greater double, and a division by a power of two loses nothing.
-/

namespace TrafficWatch.Decimal

open Float.Model (Format totalExponent UnpackedFloat)
open Float.Model.UnpackedFloat

/-- A mantissa of 53 binary digits. -/
structure Filled (m : Nat) : Prop where
  least : 2 ^ 52 ≤ m
  small : m < 2 ^ 53

namespace Filled

variable {m : Nat} (h : Filled m)

include h

theorem pos : 0 < m := Nat.lt_of_lt_of_le (by decide) h.least

theorem log2_mul (k : Nat) : (m * 2 ^ k).log2 = 52 + k := by
  have hpos : m * 2 ^ k ≠ 0 := Nat.mul_ne_zero h.pos.ne' (by positivity)
  rw [Nat.log2_eq_iff hpos]
  constructor
  · rw [Nat.pow_add]
    exact Nat.mul_le_mul_right _ h.least
  · rw [show 52 + k + 1 = 53 + k by omega, Nat.pow_add]
    exact Nat.mul_lt_mul_of_pos_right h.small (by positivity)

theorem value (e : Int) : 2 ^ (52 + e) ≤ (Dyadic.positive m e).value ∧
    (Dyadic.positive m e).value < 2 ^ (53 + e) := by
  have hpow : (0 : ℚ) < 2 ^ e := zpow_pos two_pos e
  rw [Dyadic.value_positive, zpow_add₀ two_ne_zero, zpow_add₀ two_ne_zero]
  constructor
  · exact mul_le_mul_of_nonneg_right (by exact_mod_cast h.least) hpow.le
  · exact mul_lt_mul_of_pos_right (by exact_mod_cast h.small) hpow

end Filled

/-- A short number is filled up with zeros behind it. -/
theorem filled_mul {n : Nat} (hn : n ≠ 0) (hlog : n.log2 ≤ 52) :
    Filled (n * 2 ^ (52 - n.log2)) := by
  obtain ⟨hleast, hsmall⟩ := (Nat.log2_eq_iff hn).mp rfl
  constructor
  · calc 2 ^ 52 = 2 ^ n.log2 * 2 ^ (52 - n.log2) := by rw [← Nat.pow_add]; congr 1; omega
      _ ≤ n * 2 ^ (52 - n.log2) := Nat.mul_le_mul_right _ hleast
  · calc n * 2 ^ (52 - n.log2) < 2 ^ (n.log2 + 1) * 2 ^ (52 - n.log2) :=
          Nat.mul_lt_mul_of_pos_right hsmall (by positivity)
      _ = 2 ^ 53 := by rw [← Nat.pow_add]; congr 1; omega

/-- A long number is cut off. -/
theorem filled_div {n k : Nat} (hlog : n.log2 = 52 + k) : Filled (n / 2 ^ k) := by
  have hn : n ≠ 0 := by
    rintro rfl
    rw [Nat.log2_zero] at hlog
    omega
  obtain ⟨hleast, hsmall⟩ := (Nat.log2_eq_iff hn).mp hlog
  constructor
  · rw [Nat.le_div_iff_mul_le (by positivity), ← Nat.pow_add]
    exact hleast
  · rw [Nat.div_lt_iff_lt_mul (by positivity), ← Nat.pow_add]
    exact Nat.lt_of_lt_of_le hsmall (Nat.pow_le_pow_right (by decide) (by omega))

/-! ## Rounding -/

theorem shiftRight_exact (m k : Nat) :
    ExtendedMantissa.ofMantissaAndAccuracy (m * 2 ^ k) .exact >>> k = ⟨m, false, false⟩ := by
  change Nat.repeat ExtendedMantissa.shiftRightOne k _ = _
  induction k generalizing m with
  | zero => simp [Nat.repeat, ExtendedMantissa.ofMantissaAndAccuracy]
  | succ k ih =>
    rw [Nat.repeat, Nat.pow_succ', ← Nat.mul_assoc, ih]
    simp [ExtendedMantissa.shiftRightOne]

theorem mantissa_shiftRight (em : ExtendedMantissa) (k : Nat) :
    (em >>> k).mantissa = em.mantissa / 2 ^ k := by
  change (Nat.repeat ExtendedMantissa.shiftRightOne k em).mantissa = _
  induction k with
  | zero => simp [Nat.repeat]
  | succ k ih =>
    rw [Nat.repeat, ExtendedMantissa.shiftRightOne, ih, Nat.div_div_eq_div_mul, Nat.pow_succ]

/-- Rounding goes to one of the two neighbours. -/
theorem roundedMantissa_cases (em : ExtendedMantissa) :
    em.roundedMantissa = em.mantissa ∨ em.roundedMantissa = em.mantissa + 1 := by
  obtain ⟨m, round, sticky⟩ := em
  cases round <;> cases sticky <;>
    simp [ExtendedMantissa.roundedMantissa, ExtendedMantissa.accuracy, Accuracy.roundToNearestEven]
  omega

/-- The exponent at which a mantissa of so many digits is filled up. -/
theorem targetExponent_eq {m k : Nat} {e : Int} (hm : m.log2 = 52 + k) (he : -1074 ≤ e + k) :
    Format.binary64.targetExponent (totalExponent m e) = e + k := by
  simp only [Format.targetExponent, totalExponent, Format.mantissaBits, Format.minExponent, hm]
  omega

theorem shiftToTargetExponent_exact {m k : Nat} {e : Int} (hm : Filled m) (he : -1074 ≤ e + k) :
    shiftToTargetExponent Format.binary64 (m * 2 ^ k) e .exact = (⟨m, false, false⟩, e + k) := by
  rw [shiftToTargetExponent, targetExponent_eq (hm.log2_mul k) he, shiftToExponent,
    show (e + k - e).toNat = k by omega, shiftRight_exact]

theorem shiftToTargetExponent_filled {m : Nat} {e : Int} (hm : Filled m) (he : -1074 ≤ e) :
    shiftToTargetExponent Format.binary64 m e .exact = (⟨m, false, false⟩, e) := by
  have hshift := shiftToTargetExponent_exact (k := 0) hm (e := e) (by omega)
  rw [Nat.pow_zero, Nat.mul_one] at hshift
  exact hshift.trans (by rw [Nat.cast_zero, Int.add_zero])

theorem roundWithAccuracy_exact (s : Sign) {m k : Nat} {e : Int} (hm : Filled m)
    (he : -1074 ≤ e + k) :
    roundWithAccuracy Format.binary64 s (m * 2 ^ k) e .exact = .finite s m (e + k) hm.pos := by
  have hagain := shiftToTargetExponent_filled hm he
  rw [roundWithAccuracy, shiftToTargetExponent_exact hm he]
  simp [ExtendedMantissa.roundedMantissa, ExtendedMantissa.accuracy, Accuracy.roundToNearestEven,
    hagain, hm.pos.ne']

/-- A mantissa that was rounded up may be too long by one digit, a zero. -/
theorem exists_shiftToTargetExponent {m : Nat} {e : Int} (hleast : 2 ^ 52 ≤ m) (hmost : m ≤ 2 ^ 53)
    (he : -1074 ≤ e) : ∃ m' e', Filled m' ∧ e ≤ e' ∧ e' ≤ e + 1 ∧
      shiftToTargetExponent Format.binary64 m e .exact = (⟨m', false, false⟩, e') := by
  by_cases hsmall : m < 2 ^ 53
  · have hfilled : Filled m := ⟨hleast, hsmall⟩
    exact ⟨m, e, hfilled, by omega, by omega, shiftToTargetExponent_filled hfilled he⟩
  · obtain rfl : m = 2 ^ 52 * 2 ^ 1 := by omega
    have hfilled : Filled (2 ^ 52) := ⟨Nat.le_refl _, by decide⟩
    exact ⟨2 ^ 52, e + 1, hfilled, by omega, by omega,
      shiftToTargetExponent_exact hfilled (by omega)⟩

/-- Rounding to 53 digits may carry once. -/
theorem exists_roundWithAccuracy (s : Sign) {m k : Nat} {e : Int} (hm : m.log2 = 52 + k)
    (he : -1074 ≤ e + k) : ∃ r e' hr, Filled r ∧ e + k ≤ e' ∧ e' ≤ e + k + 1 ∧
      roundWithAccuracy Format.binary64 s m e .exact = .finite s r e' hr := by
  let em := ExtendedMantissa.ofMantissaAndAccuracy m .exact >>> k
  have hfirst : shiftToTargetExponent Format.binary64 m e .exact = (em, e + k) := by
    rw [shiftToTargetExponent, targetExponent_eq hm he, shiftToExponent,
      show (e + k - e).toNat = k by omega]
  have hmantissa : em.mantissa = m / 2 ^ k := mantissa_shiftRight ..
  have hfilled : Filled em.mantissa := hmantissa ▸ filled_div hm
  have hrounded := roundedMantissa_cases em
  obtain ⟨r, e', hr, hlow, hhigh, hsecond⟩ := exists_shiftToTargetExponent (m := em.roundedMantissa)
    (e := e + k) (by have := hfilled.least; omega) (by have := hfilled.small; omega) he
  refine ⟨r, e', hr.pos, hr, hlow, hhigh, ?_⟩
  rw [roundWithAccuracy, hfirst]
  simp only [hsecond, hr.pos.ne', ↓reduceDIte]

/-! ## Packing -/

theorem toNat_hidden (m : BitVec 52) : (1#1 ++ m).toNat = 2 ^ 52 + m.toNat := by
  rw [BitVec.toNat_append, ← Nat.shiftLeft_add_eq_or_of_lt m.isLt]
  rfl

theorem pack_filled (s : Sign) {m : Nat} {e : Int} (hm : Filled m) (hlow : -1074 ≤ e)
    (hhigh : e ≤ 971) : pack Format.binary64 (.finite s m e hm.pos) =
      packComponents Format.binary64 s (BitVec.ofNat 11 (e + 1075).toNat) (BitVec.ofNat 52 m) := by
  have hlog : m.log2 = 52 := by simpa using hm.log2_mul 0
  have hbias : (e + Format.binary64.exponentBias +
      Format.binary64.mantissaBitsWithoutImplicit).toNat = (e + 1075).toNat := by
    simp [Format.exponentBias]
    omega
  simp only [pack, hbias, hlog]
  rw [if_neg (by simp; omega), if_pos (by simp [Format.mantissaBits])]

theorem unpack_pack (s : Sign) {m : Nat} {e : Int} (hm : Filled m) (hlow : -1074 ≤ e)
    (hhigh : e ≤ 971) :
    (Float.Model.pack (.finite s m e hm.pos)).unpack = .finite s m e hm.pos := by
  have hfield : (BitVec.ofNat 11 (e + 1075).toNat).toNat = (e + 1075).toNat := by
    rw [BitVec.toNat_ofNat, Nat.mod_eq_of_lt (by omega)]
  have hmantissa : (1#1 ++ BitVec.ofNat 52 m).toNat = m := by
    have hleast := hm.least
    have hsmall := hm.small
    rw [toNat_hidden, BitVec.toNat_ofNat]
    omega
  -- The field of the exponent is neither that of subnormal doubles nor that of infinities.
  have hzeros : BitVec.ofNat 11 (e + 1075).toNat ≠ 0#11 := fun h => by
    have hnat := congrArg BitVec.toNat h
    rw [hfield, BitVec.toNat_zero] at hnat
    omega
  have hones : BitVec.ofNat 11 (e + 1075).toNat ≠ -1#11 := fun h => by
    have hnat : _ = 2047 := congrArg BitVec.toNat h
    rw [hfield] at hnat
    omega
  change unpack Format.binary64 (pack Format.binary64 _) = _
  rw [pack_filled s hm hlow hhigh, unpack]
  simp only [unpackMantissa_packComponents, unpackExponent_packComponents,
    unpackSign_packComponents, Sign.ofBitVec_toBitVec, hzeros, hones, ↓reduceIte, hmantissa, hfield]
  congr 1
  simp [Format.exponentBias]
  omega

/-! ## Decoding -/

section Decoding

variable (bits : UInt64)

theorem toNat_unpackMantissa :
    (@unpackMantissa Format.binary64 bits.toBitVec).toNat = bits.toNat % hiddenBit := by
  simp [unpackMantissa, hiddenBit]

theorem toNat_unpackExponent :
    (@unpackExponent Format.binary64 bits.toBitVec).toNat = bits.toNat / hiddenBit % 2048 := by
  simp [unpackExponent, hiddenBit, Nat.shiftRight_eq_div_pow]

theorem toNat_unpackSign :
    (@unpackSign Format.binary64 bits.toBitVec).toNat = bits.toNat / 0x8000000000000000 := by
  have := bits.toNat_lt
  simp [unpackSign, Nat.shiftRight_eq_div_pow]
  omega

end Decoding

section Positive

variable {x y : Float} {m n : Nat} {e f : Int} {hm : 0 < m} {hn : 0 < n}

/-- A positive double is that number, and only the least ones have an unfilled mantissa. -/
theorem magnitude_of_unpack (hu : x.toModel.unpack = .finite .positive m e hm) :
    Magnitude.ofFloat x = .finite (.positive m e) ∧ (Filled m ∨ m < 2 ^ 52 ∧ e = -1074) := by
  have hmantissa := toNat_unpackMantissa x.toBits
  have hexponent := toNat_unpackExponent x.toBits
  have hsign := toNat_unpackSign x.toBits
  have hlt := (@unpackMantissa Format.binary64 x.toBits.toBitVec).isLt
  have hpositive {s : BitVec 1} (hs : Sign.ofBitVec s = Sign.positive) : s = 0#1 := by
    unfold Sign.ofBitVec at hs
    split at hs
    · assumption
    · cases hs
  have hu : unpack Format.binary64 x.toBits.toBitVec = _ := hu
  simp only [Magnitude.ofFloat, Magnitude.ofBits]
  rw [← hmantissa, ← hexponent, ← hsign]
  simp only [unpack] at hu
  by_cases hones : @unpackExponent Format.binary64 x.toBits.toBitVec = -1#11
  · rw [if_pos hones] at hu
    split at hu <;> cases hu
  have hfield : (@unpackExponent Format.binary64 x.toBits.toBitVec).toNat ≠ 2047 := fun h =>
    hones (BitVec.eq_of_toNat_eq h)
  rw [if_neg hones] at hu
  rw [if_neg hfield]
  by_cases hzeros : @unpackExponent Format.binary64 x.toBits.toBitVec = 0#11
  · rw [if_pos hzeros] at hu
    split at hu
    · cases hu
    · injection hu with hs hm he
      rw [hzeros] at he
      rw [hzeros, if_pos (show (0#11).toNat = 0 from rfl), hpositive hs, ← hm, ← he]
      exact ⟨rfl, .inr ⟨hlt, rfl⟩⟩
  · rw [if_neg hzeros] at hu
    injection hu with hs hm he
    have hfield' : (@unpackExponent Format.binary64 x.toBits.toBitVec).toNat ≠ 0 := fun h =>
      hzeros (BitVec.eq_of_toNat_eq h)
    rw [if_neg hfield', hpositive hs, ← hm, ← he, toNat_hidden]
    refine ⟨rfl, .inl ⟨Nat.le_add_right _ _, ?_⟩⟩
    have : _ < 2 ^ 52 := hlt
    omega

theorem isFinite_of_magnitude {d : Dyadic} (h : Magnitude.ofFloat x = .finite d) :
    x.isFinite = true := by
  have hexponent := toNat_unpackExponent x.toBits
  change (unpack Format.binary64 x.toBits.toBitVec).isFinite = true
  simp only [Magnitude.ofFloat, Magnitude.ofBits] at h
  rw [← hexponent] at h
  simp only [unpack]
  by_cases hones : @unpackExponent Format.binary64 x.toBits.toBitVec = -1#11
  · rw [hones, if_pos (by decide)] at h
    split at h <;> cases h
  · rw [if_neg hones]
    split
    · split <;> rfl
    · rfl

/-- A positive double that is finite. -/
theorem exists_unpack (hpos : 0 < x) (hfinite : x.isFinite = true) :
    ∃ m e hm, x.toModel.unpack = .finite .positive m e hm := by
  have hlt : (0 : Float).toModel.unpack.lt x.toModel.unpack = true := by
    exact of_decide_eq_true hpos
  have hzero : (0 : Float).toModel.unpack = .zero .positive := by rfl
  rw [hzero] at hlt
  change x.toModel.unpack.isFinite = true at hfinite
  cases hu : x.toModel.unpack with
  | notANumber | infinity s =>
    rw [hu] at hfinite
    cases hfinite
  | zero s =>
    rw [hu] at hlt
    exact absurd hlt (by cases s <;> decide)
  | finite s m e hm =>
    cases s with
    | positive => exact ⟨m, e, hm, rfl⟩
    | negative =>
      rw [hu] at hlt
      exact absurd hlt (by simp [UnpackedFloat.lt, UnpackedFloat.compare])

theorem lt_of_exponent_lt (hx : x.toModel.unpack = .finite .positive m e hm)
    (hy : y.toModel.unpack = .finite .positive n f hn) (h : e < f) : x < y := by
  change decide (x.toModel.unpack.lt y.toModel.unpack = true) = true
  rw [hx, hy, decide_eq_true_iff]
  simp [UnpackedFloat.lt, UnpackedFloat.compare, Int.compare_eq_lt.mpr h]

end Positive

/-- A positive double of that mantissa and exponent. -/
structure Full (x : Float) (m : Nat) (e : Int) : Prop where
  filled : Filled m
  unpacked : x.toModel.unpack = .finite .positive m e filled.pos

theorem Full.magnitude {x : Float} {m : Nat} {e : Int} (h : Full x m e) :
    Magnitude.ofFloat x = .finite (.positive m e) :=
  (magnitude_of_unpack h.unpacked).1

namespace Full

variable {x : Float} {m : Nat} {e : Int} (h : Full x m e)

include h

theorem isFinite : x.isFinite = true := by
  change x.toModel.unpack.isFinite = true
  rw [h.unpacked]
  rfl

/-- The exponents alone tell that the double is below a power of two. -/
theorem lt_iff {y : Float} {f : Int} (hy : Full y (2 ^ 52) f) : x < y ↔ e < f := by
  have hleast := h.filled.least
  change decide (x.toModel.unpack.lt y.toModel.unpack = true) = true ↔ _
  rw [h.unpacked, hy.unpacked, decide_eq_true_iff]
  simp only [UnpackedFloat.lt, UnpackedFloat.compare, beq_iff_eq, Option.some.injEq]
  obtain hlt | rfl | hgt := lt_trichotomy e f
  · simp [Int.compare_eq_lt.mpr hlt, hlt]
  · simpa [Nat.compare_eq_lt] using hleast
  · simp [Int.compare_eq_gt.mpr hgt, hgt.le]

theorem le_iff {y : Float} {f : Int} (hy : Full y (2 ^ 52) f) : y ≤ x ↔ f ≤ e := by
  have hleast := h.filled.least
  change decide (y.toModel.unpack.le x.toModel.unpack = true) = true ↔ _
  rw [h.unpacked, hy.unpacked, decide_eq_true_iff]
  simp only [UnpackedFloat.le, UnpackedFloat.compare, Option.any_some]
  obtain hlt | rfl | hgt := lt_trichotomy f e
  · simp [Int.compare_eq_lt.mpr hlt, hlt.le]
  · simpa [Nat.isLE_compare] using hleast
  · simp [Int.compare_eq_gt.mpr hgt, hgt]

/-- A power of two divides without a rest. -/
theorem div {y : Float} {f : Int} (hy : Full y (2 ^ 52) f) (hlow : -1021 ≤ e - f)
    (hhigh : e - f ≤ 1023) : Full (x / y) m (e - f - 52) := by
  have hlog : m.log2 = 52 := by simpa using h.filled.log2_mul 0
  have htarget : Format.binary64.targetExponent
      (totalExponent m e - totalExponent (2 ^ 52) f) = e - f - 53 := by
    simp only [Format.targetExponent, totalExponent, Format.mantissaBits, Format.minExponent, hlog,
      Nat.log2_two_pow]
    omega
  have hcore : divCore Format.binary64 m e (2 ^ 52) f = (m * 2 ^ 1, e - f - 53, .exact) := by
    have hshift : m <<< 53 = m * 2 ^ 1 * 2 ^ 52 := by
      rw [Nat.shiftLeft_eq, Nat.mul_assoc, ← Nat.pow_add]
    rw [divCore, htarget, show min (e - f) (e - f - 53) = e - f - 53 by omega,
      show (e - f - (e - f - 53)).toNat = 53 by omega, hshift]
    simp [accuracyOfFraction]
  have hquotient : UnpackedFloat.div Format.binary64 x.toModel.unpack y.toModel.unpack =
      .finite .positive m (e - f - 52) h.filled.pos := by
    rw [h.unpacked, hy.unpacked, UnpackedFloat.div, hcore]
    dsimp only
    rw [roundWithAccuracy_exact _ h.filled (by omega)]
    congr 1
    omega
  refine ⟨h.filled, ?_⟩
  change (Float.Model.pack
    (UnpackedFloat.div Format.binary64 x.toModel.unpack y.toModel.unpack)).unpack = _
  rw [hquotient, unpack_pack _ h.filled (by omega) (by omega)]

end Full

/-! ## Counts -/

theorem full_toFloat {n : UInt64} {m : Nat} {e : Int} (hm : Filled m) (hlow : -1074 ≤ e)
    (hhigh : e ≤ 971)
    (h : UnpackedFloat.ofNat Format.binary64 n.toNat = .finite .positive m e hm.pos) :
    Full n.toFloat m e := by
  refine ⟨hm, ?_⟩
  change (Float.Model.pack (UnpackedFloat.ofNat Format.binary64 n.toNat)).unpack = _
  rw [h, unpack_pack _ hm hlow hhigh]

theorem ofNat_eq_round {n : Nat} (hn : n ≠ 0) : UnpackedFloat.ofNat Format.binary64 n =
    roundWithAccuracy Format.binary64 .positive (n * 2 ^ (52 - n.log2)) (-(52 - n.log2 : Nat))
      .exact := by
  have htarget : Format.binary64.targetExponent (totalExponent n 0) = n.log2 - 52 := by
    simp only [Format.targetExponent, totalExponent, Format.mantissaBits, Format.minExponent]
    omega
  simp only [UnpackedFloat.ofNat, UnpackedFloat.ofInt, UnpackedFloat.normalize]
  rw [Int.compare_eq_gt.mpr (by omega), Int.toNat_natCast]
  simp only [UnpackedFloat.round, htarget, decreaseExponent]
  rw [show (0 - ((n.log2 : Int) - 52)).toNat = 52 - n.log2 by omega, Nat.shiftLeft_eq, Int.zero_sub]

/-- The double of a count. If it has a place for units it loses nothing. -/
theorem exists_full_toFloat {n : UInt64} (hn : n ≠ 0) : ∃ m e, Full n.toFloat m e ∧ -52 ≤ e ∧
    e ≤ 12 ∧ (e ≤ 0 → m = n.toNat * 2 ^ (-e).toNat) := by
  have hne : n.toNat ≠ 0 := fun h => hn (UInt64.toNat_inj.mp h)
  have hlog : n.toNat.log2 < 64 := (Nat.log2_lt hne).mpr n.toNat_lt
  by_cases hshort : n.toNat.log2 ≤ 52
  · have hm := filled_mul hne hshort
    have hround := roundWithAccuracy_exact .positive hm (k := 0)
      (e := -(52 - n.toNat.log2 : Nat)) (by omega)
    rw [Nat.pow_zero, Nat.mul_one, ← ofNat_eq_round hne] at hround
    refine ⟨_, _, full_toFloat hm (by omega) (by omega) hround, by omega, by omega, fun _ => ?_⟩
    congr 2
    omega
  · obtain ⟨r, e, _, hr, hlow, hhigh, hround⟩ := exists_roundWithAccuracy .positive (m := n.toNat)
      (k := n.toNat.log2 - 52) (e := 0) (by omega) (by omega)
    have hofNat := ofNat_eq_round hne
    rw [show 52 - n.toNat.log2 = 0 by omega, Nat.pow_zero, Nat.mul_one] at hofNat
    exact ⟨r, e, full_toFloat hr (by omega) (by omega) (hofNat.trans hround), by omega, by omega,
      fun h => absurd h (by omega)⟩

end TrafficWatch.Decimal
