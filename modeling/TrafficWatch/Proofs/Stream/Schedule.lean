import Mathlib.Data.List.DropRight
import TrafficWatch.Proofs.Stream.Pacing

/-!
The schedule of waits under any calls. Its position is known by the calls for a wait since the last
reset alone, and the wait that comes of it is bounded by the position. On the way nothing is too
large for a duration, although the double of a bound may have more milliseconds than the bound can.
-/

namespace TrafficWatch.Stream.Backoff

inductive Call where
  | next (jitter : Rat)
  | reset

namespace Call

def isNext : Call → Bool
  | .next _ => true
  | .reset => false

/-- The jitter is one that may be drawn. -/
def Mild : Call → Prop
  | .next jitter => 0 ≤ jitter ∧ jitter ≤ 1 / 10
  | .reset => True

/-- The calls for a wait since the last reset, or since the start. -/
def waitsSince (cs : List Call) : Nat := (cs.rtakeWhile isNext).length

theorem waitsSince_next (cs : List Call) (jitter : Rat) :
    waitsSince (cs ++ [.next jitter]) = waitsSince cs + 1 := by
  rw [waitsSince, List.rtakeWhile_concat_pos _ _ _ rfl, List.length_append]
  rfl

theorem waitsSince_reset (cs : List Call) : waitsSince (cs ++ [.reset]) = 0 := by
  rw [waitsSince, List.rtakeWhile_concat_neg _ _ _ (by decide)]
  rfl

end Call

/-- A call with the arithmetic of durations, where neither the double nor the product may leave
their range. -/
def call? (b : Backoff) : Call → Option (Backoff × Option Rat)
  | .next jitter =>
    if b.current * 2 < durationLimit ∧ (b.current : Rat) * (1 + jitter) < durationLimit then
      some ((b.next jitter).1, some (b.next jitter).2)
    else none
  | .reset => some (b.reset, none)

/-- The schedule after some calls, if each of them succeeds. -/
def calls? (b : Backoff) : List Call → Option Backoff
  | [] => some b
  | c :: cs => do
    let (b, _) ← b.call? c
    calls? b cs

/-- The wait that a call for it gives. -/
structure Offers (b : Backoff) (wait : Rat) : Prop where
  least : b.current ≤ wait
  most : wait ≤ b.max
  tenth : wait ≤ 11 / 10 * b.current
  full : b.current = b.max → wait = b.max

/-- What is known of a schedule after some calls, from the bounds that it was made with. -/
structure Keeps (b : Backoff) (min max : Nat) (cs : List Call) : Prop where
  low : b.min = Nat.max min 50
  high : b.max = Nat.max max b.min
  floor : 50 ≤ b.min
  range : b.min ≤ b.current ∧ b.current ≤ b.max
  current : b.current = Nat.min (b.min * 2 ^ Call.waitsSince cs) b.max
  next : ∀ jitter, 0 ≤ jitter → jitter ≤ 1 / 10 →
    ∃ wait, b.call? (.next jitter) = some (b.advance, some wait) ∧ b.Offers wait
  reset : b.call? .reset = some (b.reset, none)

variable {b : Backoff} {jitter : Rat} {min max : Nat} {cs : List Call}

theorem Sound.offers (h : b.Sound) (hlow : 0 ≤ jitter) (hhigh : jitter ≤ 1 / 10) :
    b.Offers (b.delay jitter) := by
  obtain ⟨hleast, htenth, hmost⟩ := admits_iff.mp (h.admits_delay hlow hhigh)
  refine ⟨hleast, hmost, htenth, fun hfull => le_antisymm hmost ?_⟩
  rwa [← hfull]

theorem Sound.call?_next (h : b.Sound) (hmax : b.max < 18446744073709551616)
    (hhigh : jitter ≤ 1 / 10) :
    b.call? (.next jitter) = some (b.advance, some (b.delay jitter)) := by
  rw [call?, if_pos (h.fits hmax hhigh)]
  rfl

/-- Where a schedule is after some calls. -/
structure Stands (k b : Backoff) (cs : List Call) : Prop where
  bounds : b.min = k.min ∧ b.max = k.max
  sound : b.Sound
  current : b.current = Deed.base k.min k.max (Call.waitsSince cs)

namespace Stands

variable {k : Backoff}

theorem start (h : k.Sound) (hstart : k.current = k.min) : Stands k k [] where
  bounds := ⟨rfl, rfl⟩
  sound := h
  current := hstart.trans (Deed.base_zero (h.low.trans h.high)).symm

theorem next (h : Stands k b cs) (jitter : Rat) : Stands k b.advance (cs ++ [.next jitter]) where
  bounds := h.bounds
  sound := h.sound.advance
  current := by
    rw [Call.waitsSince_next]
    exact current_advance h.bounds.2 h.current

theorem reset (hk : k.Sound) (h : Stands k b cs) : Stands k b.reset (cs ++ [.reset]) where
  bounds := h.bounds
  sound := h.sound.reset
  current := by
    rw [Call.waitsSince_reset, Deed.base_zero (hk.low.trans hk.high)]
    exact h.bounds.1

/-- No call fails, and each one leads on. -/
theorem call (hk : k.Sound) (hmax : k.max < 18446744073709551616) (h : Stands k b cs) {c : Call}
    (hc : c.Mild) : ∃ r, b.call? c = some r ∧ Stands k r.1 (cs ++ [c]) := by
  cases c with
  | next jitter =>
    exact ⟨_, h.sound.call?_next (h.bounds.2 ▸ hmax) hc.2, h.next jitter⟩
  | reset => exact ⟨_, rfl, h.reset hk⟩

theorem calls (hk : k.Sound) (hmax : k.max < 18446744073709551616) (h : Stands k b cs)
    {more : List Call} (hmore : ∀ c ∈ more, c.Mild) :
    ∃ b', b.calls? more = some b' ∧ Stands k b' (cs ++ more) := by
  induction more generalizing b cs with
  | nil => exact ⟨b, rfl, by rwa [List.append_nil]⟩
  | cons c more ih =>
    rw [List.forall_mem_cons] at hmore
    obtain ⟨⟨b₁, wait⟩, hcall, h₁⟩ := h.call hk hmax hmore.1
    obtain ⟨b', hcalls, h'⟩ := ih h₁ hmore.2
    refine ⟨b', ?_, by rwa [List.append_cons]⟩
    rw [calls?, hcall]
    exact hcalls

theorem keeps (hmax : (create min max).max < 18446744073709551616)
    (h : Stands (create min max) b cs) : b.Keeps min max cs where
  low := h.bounds.1
  high := by
    rw [h.bounds.2, h.bounds.1]
    rfl
  floor := h.sound.floor
  range := ⟨h.sound.low, h.sound.high⟩
  current := by
    rw [h.current, h.bounds.1, h.bounds.2]
    rfl
  next jitter hlow hhigh :=
    ⟨_, h.sound.call?_next (h.bounds.2 ▸ hmax) hhigh, h.sound.offers hlow hhigh⟩
  reset := rfl

end Stands

/-- Whatever the bounds, and however calls for a wait and resets follow each other: no call fails,
and the schedule stands where the calls for a wait since the last reset have brought it. -/
theorem calls_keep (min max : UInt64) (cs : List Call) (hcs : ∀ c ∈ cs, c.Mild) :
    ∃ b, (create min.toNat max.toNat).calls? cs = some b ∧ b.Keeps min.toNat max.toNat cs := by
  have hsound := sound_create min.toNat max.toNat
  have hmax : (create min.toNat max.toNat).max < 18446744073709551616 :=
    Config.backoff_max_lt { minRetryMs := min, maxRetryMs := max }
  obtain ⟨b, hcalls, hstands⟩ := (Stands.start hsound rfl).calls hsound hmax hcs
  exact ⟨b, hcalls, hstands.keeps hmax⟩

/-- The second call for a wait after the reset doubles the upper half of the range. -/
def farCalls : List Call := [.next (1 / 10), .reset, .next 0, .next (1 / 20)]

theorem calls_keep_far :
    (∀ c ∈ farCalls, c.Mild) ∧ ∃ b,
      (create (9223372036854775808 : UInt64).toNat (18446744073709551615 : UInt64).toNat).calls?
          farCalls = some b ∧
        b.current = 18446744073709551615 ∧
        b.call? (.next (1 / 10)) = some (b.advance, some 18446744073709551615) := by
  have hmild : ∀ c ∈ farCalls, c.Mild := by
    simp only [farCalls, List.forall_mem_cons, Call.Mild]
    norm_num
  obtain ⟨b, hcalls, hkeeps⟩ := calls_keep 9223372036854775808 18446744073709551615 farCalls hmild
  have hmin : b.min = 9223372036854775808 := hkeeps.low
  have hmax : b.max = 18446744073709551615 := by
    rw [hkeeps.high, hmin]
    rfl
  have hcurrent : b.current = 18446744073709551615 := by
    rw [hkeeps.current, hmin, hmax]
    decide
  obtain ⟨wait, hcall, hoffers⟩ := hkeeps.next (1 / 10) (by norm_num) le_rfl
  have hwait : wait = 18446744073709551615 := by
    rw [hoffers.full (hcurrent.trans hmax.symm), hmax]
    norm_num
  exact ⟨hmild, b, hcalls, hcurrent, hwait ▸ hcall⟩

end TrafficWatch.Stream.Backoff
