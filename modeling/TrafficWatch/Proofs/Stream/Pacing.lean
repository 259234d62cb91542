import TrafficWatch.Proofs.Stream.Retrying
import TrafficWatch.Stream.Reader

/-!
The pace at which a task asks for its transport. What it does about the transport is told as a list
of deeds; the law for them looks at each deed and at those before it. A task obeys the law because
its schedule knows how many waits there have been since it was last successful.
-/

namespace TrafficWatch.Stream

/-- What a task does about its transport, and what comes of it. -/
inductive Deed where
  /-- The task asks for the transport to be opened. -/
  | opens (time : Nat)
  | answered (time : Nat) (success : Bool)
  | waits (since : Nat) (delay : Rat)
deriving DecidableEq, Repr

namespace Deed

def isWait : Deed → Bool
  | .waits _ _ => true
  | .opens _ | .answered _ _ => false

/-- The time at which the transport answered. -/
def answer? : Deed → Option Nat
  | .answered time _ => some time
  | .opens _ | .waits _ _ => none

def count (n : Nat) : Deed → Nat
  | .opens _ => n
  | .answered _ success => if success then 0 else n
  | .waits _ _ => n + 1

/-- The waits since the last success, or since the start. -/
def waitsSince (ds : List Deed) : Nat := ds.foldl count 0

/-- The base of a wait after some others. -/
def base (low high n : Nat) : Nat := min (low * 2 ^ n) high

/-- What must have been done before a deed. -/
def Fits (low high : Nat) (before : List Deed) : Deed → Prop
  -- since the open before there has been exactly one wait, and that is over
  | .opens time => before = [] ∨ ∃ front t t' success, ∃ since : Nat, ∃ delay : Rat,
      before = front ++ [.opens t, .answered t' success, .waits since delay] ∧ since + delay ≤ time
  | .answered _ _ => ∃ front t, before = front ++ [.opens t]
  | .waits _ delay => (∃ front t t' success, before = front ++ [.opens t, .answered t' success]) ∧
      base low high (waitsSince before) ≤ delay ∧ delay ≤ high ∧
        delay ≤ 11 / 10 * base low high (waitsSince before)

/-- A task keeps pace if each of its deeds fits those before it. -/
def Paced (low high : Nat) (ds : List Deed) : Prop :=
  ∀ before d after, ds = before ++ d :: after → d.Fits low high before

variable {low high : Nat} {ds : List Deed} {d : Deed}

theorem waitsSince_concat (ds : List Deed) (d : Deed) :
    waitsSince (ds ++ [d]) = d.count (waitsSince ds) := by
  simp [waitsSince]

/-- The base doubles, up to its bound. -/
theorem base_succ (low high n : Nat) : min (base low high n * 2) high = base low high (n + 1) := by
  have hpow : low * 2 ^ (n + 1) = low * 2 ^ n * 2 := by rw [Nat.pow_succ, Nat.mul_assoc]
  simp only [base, hpow]
  omega

theorem base_zero (hrange : low ≤ high) : base low high 0 = low := by
  rw [base, Nat.pow_zero, Nat.mul_one, Nat.min_eq_left hrange]

theorem low_le_base (hrange : low ≤ high) (n : Nat) : low ≤ base low high n :=
  Nat.le_min.mpr ⟨Nat.le_mul_of_pos_right low (Nat.two_pow_pos n), hrange⟩

theorem paced_nil : Paced low high [] := fun before d after h => by simp at h

theorem Paced.concat (h : Paced low high ds) (hd : d.Fits low high ds) :
    Paced low high (ds ++ [d]) := by
  intro before x after heq
  rcases List.eq_nil_or_concat after with rfl | ⟨after, y, rfl⟩
  · obtain ⟨rfl, hx⟩ := List.append_inj' heq rfl
    exact List.singleton_inj.mp hx ▸ hd
  · rw [List.concat_eq_append, ← List.cons_append, ← List.append_assoc] at heq
    exact h before x after (List.append_inj' heq rfl).1

/-- After a success the next wait is one of the shortest. -/
theorem Paced.after_success (h : Paced low high ds) (hrange : low ≤ high) {before after : List Deed}
    {time since : Nat} {delay : Rat}
    (hds : ds = before ++ .answered time true :: .waits since delay :: after) :
    (low : Rat) ≤ delay ∧ delay ≤ 11 / 10 * low := by
  rw [List.append_cons] at hds
  obtain ⟨-, hlow, -, hhigh⟩ := h _ _ _ hds
  have hnone : waitsSince (before ++ [.answered time true]) = 0 := waitsSince_concat _ _
  rw [hnone, base_zero hrange] at hlow hhigh
  exact ⟨hlow, hhigh⟩

/-- No wait is shorter than the lower bound. -/
theorem Paced.low_le (h : Paced low high ds) (hrange : low ≤ high) {since : Nat} {delay : Rat}
    (hd : .waits since delay ∈ ds) : (low : Rat) ≤ delay := by
  obtain ⟨before, after, hds⟩ := List.append_of_mem hd
  obtain ⟨-, hbase, -⟩ := h _ _ _ hds
  exact le_trans (by exact_mod_cast low_le_base hrange _) hbase

end Deed

namespace Backoff

variable {k : Backoff}

theorem admits_iff {wait : Rat} : k.admits wait = true ↔
    (k.current : Rat) ≤ wait ∧ wait ≤ 11 / 10 * k.current ∧ wait ≤ k.max := by
  simp only [admits, Bool.and_eq_true, decide_eq_true_eq, and_assoc, mul_comm]

/-- A jitter up to a tenth leads to a wait that the schedule admits. -/
theorem Sound.admits_delay (h : k.Sound) {jitter : Rat} (hlow : 0 ≤ jitter)
    (hhigh : jitter ≤ 1 / 10) : k.admits (k.delay jitter) = true := by
  have hcurrent : (0 : Rat) ≤ k.current := Nat.cast_nonneg _
  have hmin : (k.min : Rat) ≤ k.current := by exact_mod_cast h.low
  have hmax : (k.current : Rat) ≤ k.max := by exact_mod_cast h.high
  have hless : (k.current : Rat) ≤ k.current * (1 + jitter) := by nlinarith
  have hmore : (k.current : Rat) * (1 + jitter) ≤ k.current * (11 / 10) := by
    exact mul_le_mul_of_nonneg_left (by linarith) hcurrent
  rw [admits_iff]
  unfold delay
  dsimp only
  split
  · next hshort => exact absurd hshort (not_lt.mpr (hmin.trans hless))
  split
  · next hlong => exact ⟨hmax, by linarith, le_refl _⟩
  · next hfits => exact ⟨hless, by linarith, not_lt.mp hfits⟩

/-- Where the base is after some waits, it is after one more. -/
theorem current_advance {low high n : Nat} (hmax : k.max = high)
    (hcurrent : k.current = Deed.base low high n) :
    k.advance.current = Deed.base low high (n + 1) := by
  calc k.advance.current = Nat.min (k.current * 2) k.max := rfl
    _ = Nat.min (Deed.base low high n * 2) high := by rw [hcurrent, hmax]
    _ = Deed.base low high (n + 1) := Deed.base_succ ..

end Backoff

/-- One step of a task at some time, with what it does about the transport. -/
inductive Task.Turns (now : Nat) (jitter : Rat) :
    Phase → Backoff → List Deed → Phase → Backoff → Prop where
  | begins {k : Backoff} : Turns now jitter .ready k [.opens now] .opening k
  | retries {k : Backoff} {since : Nat} {delay : Rat} (hover : (since : Rat) + delay ≤ now) :
    Turns now jitter (.waiting since delay) k [.opens now] .opening k
  | refused {k : Backoff} : Turns now jitter .opening k
    [.answered now false, .waits now (k.delay jitter)] (.waiting now (k.delay jitter)) k.advance
  | opened {k : Backoff} : Turns now jitter .opening k [.answered now true] .reading k.reset
  | reads {k : Backoff} : Turns now jitter .reading k [] .reading k
  | drops {k : Backoff} : Turns now jitter .reading k [.waits now (k.delay jitter)]
    (.waiting now (k.delay jitter)) k.advance
  | ends {k : Backoff} {phase : Phase} : Turns now jitter phase k [] .finished k
  | late {k : Backoff} {success : Bool} :
    Turns now jitter .opening k [.answered now success] .finished k

namespace Task

/-- What a task has done since it was started with a schedule, and where that has brought it. -/
inductive Lives (k₀ : Backoff) : List Deed → Phase → Backoff → Prop where
  | start : Lives k₀ [] .ready k₀
  | turn {ds new : List Deed} {phase phase' : Phase} {k k' : Backoff} {now : Nat} {jitter : Rat}
    (lives : Lives k₀ ds phase k) (low : 0 ≤ jitter) (high : jitter ≤ 1 / 10)
    (turns : Turns now jitter phase k new phase' k') : Lives k₀ (ds ++ new) phase' k'

/-- The last deeds of a task that is in some phase. -/
def Ends (ds : List Deed) : Phase → Prop
  | .ready => ds = []
  | .opening => ∃ front t, ds = front ++ [.opens t]
  | .reading => ∃ front t t', ds = front ++ [.opens t, .answered t' true]
  | .waiting since delay => ∃ front t t' success,
      ds = front ++ [.opens t, .answered t' success, .waits since delay]
  | .finished => True

/-- The schedule of a task that goes on knows how many waits there have been. -/
structure InPace (k₀ : Backoff) (ds : List Deed) (phase : Phase) (k : Backoff) : Prop where
  paced : Deed.Paced k₀.min k₀.max ds
  ends : Ends ds phase
  bounds : k.min = k₀.min ∧ k.max = k₀.max
  sound : k.Sound
  current : phase ≠ .finished → k.current = Deed.base k₀.min k₀.max (Deed.waitsSince ds)

namespace InPace

variable {k₀ k : Backoff} {ds : List Deed} {phase : Phase} {now : Nat} {jitter : Rat}

theorem start (h : k₀.Sound) (hstart : k₀.current = k₀.min) : InPace k₀ [] .ready k₀ where
  paced := Deed.paced_nil
  ends := rfl
  bounds := ⟨rfl, rfl⟩
  sound := h
  current _ := hstart.trans (Deed.base_zero (h.low.trans h.high)).symm

theorem opens (h : InPace k₀ ds phase k) (hphase : phase ≠ .finished)
    (hfits : (Deed.opens now).Fits k₀.min k₀.max ds) :
    InPace k₀ (ds ++ [.opens now]) .opening k where
  paced := h.paced.concat hfits
  ends := ⟨ds, now, rfl⟩
  bounds := h.bounds
  sound := h.sound
  current _ := by
    rw [Deed.waitsSince_concat]
    exact h.current hphase

theorem answered (h : InPace k₀ ds .opening k) (now : Nat) (success : Bool) :
    Deed.Paced k₀.min k₀.max (ds ++ [.answered now success]) ∧
      ∃ front t, ds ++ [.answered now success] = front ++ [.opens t, .answered now success] := by
  obtain ⟨front, t, hds⟩ := h.ends
  refine ⟨h.paced.concat ⟨front, t, hds⟩, front, t, ?_⟩
  rw [hds, List.append_assoc]
  rfl

/-- The wait after an answer, be it a refusal or the end of a session. -/
theorem waits (hpaced : Deed.Paced k₀.min k₀.max ds)
    (hends : ∃ front t t' success, ds = front ++ [.opens t, .answered t' success])
    (hbounds : k.min = k₀.min ∧ k.max = k₀.max) (hsound : k.Sound)
    (hcurrent : k.current = Deed.base k₀.min k₀.max (Deed.waitsSince ds)) (now : Nat) (hlow : 0 ≤ jitter)
    (hhigh : jitter ≤ 1 / 10) :
    InPace k₀ (ds ++ [.waits now (k.delay jitter)]) (.waiting now (k.delay jitter)) k.advance where
  paced := by
    obtain ⟨hbase, htenth, hmax⟩ := Backoff.admits_iff.mp (hsound.admits_delay hlow hhigh)
    rw [hcurrent] at hbase htenth
    rw [hbounds.2] at hmax
    exact hpaced.concat ⟨hends, hbase, hmax, htenth⟩
  ends := by
    obtain ⟨front, t, t', success, hds⟩ := hends
    refine ⟨front, t, t', success, ?_⟩
    rw [hds, List.append_assoc]
    rfl
  bounds := hbounds
  sound := hsound.advance
  current _ := by
    rw [Deed.waitsSince_concat]
    exact Backoff.current_advance hbounds.2 hcurrent

/-- A task that ends does nothing any more. -/
theorem finished (h : InPace k₀ ds phase k) {ds' : List Deed}
    (hpaced : Deed.Paced k₀.min k₀.max ds') : InPace k₀ ds' .finished k :=
  ⟨hpaced, trivial, h.bounds, h.sound, fun hne => absurd rfl hne⟩

theorem turns (hk₀ : k₀.Sound) (h : InPace k₀ ds phase k) {new : List Deed} {phase' : Phase}
    {k' : Backoff} (hlow : 0 ≤ jitter) (hhigh : jitter ≤ 1 / 10)
    (hturns : Turns now jitter phase k new phase' k') : InPace k₀ (ds ++ new) phase' k' := by
  cases hturns with
  | begins => exact h.opens nofun (.inl h.ends)
  | retries hover =>
    obtain ⟨front, t, t', success, hds⟩ := h.ends
    exact h.opens nofun (.inr ⟨front, t, t', success, _, _, hds, hover⟩)
  | refused =>
    obtain ⟨hpaced, front, t, hends⟩ := h.answered now false
    rw [List.append_cons]
    refine waits hpaced ⟨front, t, now, false, hends⟩ h.bounds h.sound ?_ now hlow hhigh
    rw [Deed.waitsSince_concat]
    exact h.current nofun
  | opened =>
    obtain ⟨hpaced, front, t, hends⟩ := h.answered now true
    refine ⟨hpaced, ⟨front, t, now, hends⟩, h.bounds, h.sound.reset, fun _ => ?_⟩
    rw [Deed.waitsSince_concat]
    calc k.reset.current = k.min := rfl
      _ = k₀.min := h.bounds.1
      _ = Deed.base k₀.min k₀.max 0 := (Deed.base_zero (hk₀.low.trans hk₀.high)).symm
  | reads => rwa [List.append_nil]
  | drops =>
    obtain ⟨front, t, t', hds⟩ := h.ends
    exact waits h.paced ⟨front, t, t', true, hds⟩ h.bounds h.sound (h.current nofun) now hlow hhigh
  | ends =>
    rw [List.append_nil]
    exact h.finished h.paced
  | @late k success => exact h.finished (h.answered now success).1

end InPace

/-- A task keeps pace however it lives. -/
theorem Lives.inPace {k₀ k : Backoff} {ds : List Deed} {phase : Phase} (hk₀ : k₀.Sound)
    (hstart : k₀.current = k₀.min) (h : Lives k₀ ds phase k) : InPace k₀ ds phase k := by
  induction h with
  | start => exact .start hk₀ hstart
  | turn _ low high turns ih => exact ih.turns hk₀ low high turns

end Task

end TrafficWatch.Stream
