import Mathlib.Tactic.Linarith
import Mathlib.Algebra.Order.Ring.Rat
import TrafficWatch.Stream.Config

/-!
Waiting times over any run of failures and successes. They stay within the bounds they start with,
and no step on the way to them leaves the range of durations.
-/

namespace TrafficWatch.Stream

/-- The milliseconds that are too many for a duration, whose whole seconds have 64 bits. -/
def durationLimit : Nat := 18446744073709551616 * 1000

namespace Backoff

/-- What becomes of a schedule by failures and successes. -/
inductive Reaches (b : Backoff) : Backoff → Prop
  | start : Reaches b b
  | failure {b' : Backoff} (h : Reaches b b') : Reaches b b'.advance
  | success {b' : Backoff} (h : Reaches b b') : Reaches b b'.reset

variable {b b' : Backoff}

theorem Reaches.sound (hb : b.Sound) (h : b.Reaches b') : b'.Sound := by
  induction h with
  | start => exact hb
  | failure _ ih => exact ih.advance
  | success _ ih => exact ih.reset

theorem Reaches.bounds (h : b.Reaches b') : b'.min = b.min ∧ b'.max = b.max := by
  induction h with
  | start => exact ⟨rfl, rfl⟩
  | failure _ ih => exact ih
  | success _ ih => exact ih

/-- Whatever the jitter, a wait keeps to the bounds. -/
theorem Sound.delay_bounds (hb : b.Sound) (jitter : Rat) :
    (b.min : Rat) ≤ b.delay jitter ∧ b.delay jitter ≤ b.max := by
  have hrange : (b.min : Rat) ≤ b.max := by exact_mod_cast hb.low.trans hb.high
  unfold delay
  dsimp only
  split
  · exact ⟨le_refl _, hrange⟩
  split
  · exact ⟨hrange, le_refl _⟩
  · exact ⟨by linarith, by linarith⟩

/-- What is doubled and multiplied on the way to a wait is a duration. -/
theorem Sound.fits (hb : b.Sound) (hmax : b.max < 18446744073709551616) {jitter : Rat}
    (hjitter : jitter ≤ 1 / 10) :
    b.current * 2 < durationLimit ∧ (b.current : Rat) * (1 + jitter) < durationLimit := by
  have hcurrent : b.current < 18446744073709551616 := Nat.lt_of_le_of_lt hb.high hmax
  have hlimit : durationLimit = 18446744073709551616 * 1000 := rfl
  refine ⟨by omega, ?_⟩
  have hbound : (b.current : Rat) < 18446744073709551616 := by exact_mod_cast hcurrent
  have hnonneg : (0 : Rat) ≤ b.current := Nat.cast_nonneg _
  calc (b.current : Rat) * (1 + jitter) ≤ b.current * 2 := by
        exact mul_le_mul_of_nonneg_left (by linarith) hnonneg
    _ < 18446744073709551616 * 1000 := by linarith
    _ = (durationLimit : Rat) := by rw [hlimit]; norm_num

end Backoff

namespace Config

/-- If the bounds are in order, they are those of the schedule, but for the floor. -/
theorem backoff_bounds {c : Config} (h : c.minRetryMs ≤ c.maxRetryMs) :
    c.backoff.min = Nat.max c.minRetryMs.toNat minRetryFloor ∧
      c.backoff.max = Nat.max c.maxRetryMs.toNat minRetryFloor := by
  have hle : c.minRetryMs.toNat ≤ c.maxRetryMs.toNat := UInt64.le_iff_toNat_le.mp h
  refine ⟨rfl, ?_⟩
  calc c.backoff.max
      = Nat.max c.maxRetryMs.toNat (Nat.max c.minRetryMs.toNat minRetryFloor) := rfl
    _ = Nat.max (Nat.max c.maxRetryMs.toNat c.minRetryMs.toNat) minRetryFloor :=
        (Nat.max_assoc _ _ _).symm
    _ = Nat.max c.maxRetryMs.toNat minRetryFloor :=
        congrArg (Nat.max · minRetryFloor) (Nat.max_eq_left hle)

theorem backoff_max_lt (c : Config) : c.backoff.max < 18446744073709551616 := by
  have hmin := c.minRetryMs.toNat_lt
  have hmax := c.maxRetryMs.toNat_lt
  simp only [backoff, Backoff.create, Nat.max_def, minRetryFloor]
  split <;> split <;> omega

end Config

end TrafficWatch.Stream
