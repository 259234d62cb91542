/-!
Waiting times between attempts to connect. They double from a lower to an upper bound, and start
over after a success. Times are in milliseconds.
-/

namespace TrafficWatch.Stream

/-- No wait is ever shorter. -/
def minRetryFloor : Nat := 50

structure Backoff where
  min : Nat
  max : Nat
  current : Nat
deriving DecidableEq, Repr

namespace Backoff

def create (min max : Nat) : Backoff :=
  let low := Nat.max min minRetryFloor
  ⟨low, Nat.max max low, low⟩

def advance (b : Backoff) : Backoff := { b with current := Nat.min (b.current * 2) b.max }

/-- The wait before the next attempt. The jitter, a fraction of the base from 0 to 1/10, keeps many
clients from coming back at the same time. -/
def delay (b : Backoff) (jitter : Rat) : Rat :=
  let d := (b.current : Rat) * (1 + jitter)
  if d < b.min then b.min else if b.max < d then b.max else d

/-- Whether a wait is one of those that the jitter may lead to. -/
def admits (b : Backoff) (wait : Rat) : Bool :=
  (b.current : Rat) ≤ wait && wait ≤ (b.current : Rat) * (11 / 10) && wait ≤ (b.max : Rat)

def next (b : Backoff) (jitter : Rat) : Backoff × Rat := (b.advance, b.delay jitter)

def reset (b : Backoff) : Backoff := { b with current := b.min }

/-- The bounds that hold from the start on. -/
structure Sound (b : Backoff) : Prop where
  floor : minRetryFloor ≤ b.min
  low : b.min ≤ b.current
  high : b.current ≤ b.max

theorem sound_create (min max : Nat) : (create min max).Sound := by
  constructor <;> simp only [create, Nat.max_def] <;> split <;> (try split) <;> omega

theorem Sound.advance {b : Backoff} (h : b.Sound) : b.advance.Sound := by
  obtain ⟨floor, low, high⟩ := h
  constructor <;> simp only [Backoff.advance, Nat.min_def] <;> (try split) <;> omega

theorem Sound.reset {b : Backoff} (h : b.Sound) : b.reset.Sound := by
  obtain ⟨floor, low, high⟩ := h
  constructor <;> simp only [Backoff.reset] <;> omega

end Backoff

end TrafficWatch.Stream
