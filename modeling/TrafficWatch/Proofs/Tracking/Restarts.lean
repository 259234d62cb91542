import TrafficWatch.Proofs.Tracking.Hiding

/-!
Restarts of the stream between the snapshots that feed a store. They are counted, and nothing else
comes of them: whatever else is shown, and every outcome, depends on the snapshots and their times
alone.
-/

namespace TrafficWatch.Tracking.Store

open Files Time Wire

inductive Heard where
  | snapshot (s : Snapshot) (now : Instant) (milliseconds : Float)
  | restart

namespace Heard

def op : Heard → Op
  | .snapshot s now ms => .feed s now ms
  | .restart => .restart

def fed? : Heard → Option (Instant × Snapshot)
  | .snapshot s now _ => some (now, s)
  | .restart => none

end Heard

/-- The snapshots heard, each with its time. -/
def feeds (hs : List Heard) : List (Instant × Snapshot) := hs.filterMap Heard.fed?

def restarts (hs : List Heard) : Nat := hs.countP (·.fed?.isNone)

def hear (d : Disk) (s : Store) (hs : List Heard) : Store := (run d s (hs.map Heard.op)).2

def Result.outcome? : Result → Option Outcome
  | .fed o => some o
  | _ => none

/-- The outcomes that a store has returned for what it has heard. -/
def outcomes (d : Disk) (s : Store) (hs : List Heard) : List Outcome :=
  (history d s (hs.map Heard.op)).filterMap (·.1.outcome?)

/-- Stores that differ at most in what they count. -/
structure Alike (s s' : Store) : Prop where
  table : s'.table = s.table
  keepClosed : s'.keepClosed = s.keepClosed
  updatedAt : s'.updatedAt = s.updatedAt

variable {s s' s'' : Store} {d d' : Disk}

theorem Alike.refl (s : Store) : Alike s s := ⟨rfl, rfl, rfl⟩

theorem Alike.symm (h : Alike s s') : Alike s' s :=
  ⟨h.table.symm, h.keepClosed.symm, h.updatedAt.symm⟩

theorem Alike.trans (h : Alike s s') (h' : Alike s' s'') : Alike s s'' :=
  ⟨h'.table.trans h.table, h'.keepClosed.trans h.keepClosed, h'.updatedAt.trans h.updatedAt⟩

theorem Alike.noteRestart (h : Alike s s') : Alike s.noteRestart s' :=
  ⟨h.table, h.keepClosed, h.updatedAt⟩

theorem Alike.outcome (h : Alike s s') (snapshot : Snapshot) (now : Instant) (ms ms' : Float) :
    (s'.feed snapshot now ms').2 = (s.feed snapshot now ms).2 := by
  simp only [Store.feed, h.table]

theorem Alike.feed (h : Alike s s') (snapshot : Snapshot) (now : Instant) (ms ms' : Float) :
    Alike (s.feed snapshot now ms).1 (s'.feed snapshot now ms').1 where
  table := by simp only [Store.feed, publish, h.table, h.keepClosed]
  keepClosed := h.keepClosed
  updatedAt := rfl

/-- No disk is read or written for what is heard. -/
theorem hear_cons (d : Disk) (s : Store) (x : Heard) (hs : List Heard) :
    hear d s (x :: hs) = hear d (hear d s [x]) hs := by
  cases x <;> rfl

theorem hear_append (d : Disk) (s : Store) (hs hs' : List Heard) :
    hear d s (hs ++ hs') = hear d (hear d s hs) hs' := by
  induction hs generalizing s with
  | nil => rfl
  | cons x hs ih => rw [List.cons_append, hear_cons, ih, hear_cons d s x hs]

/-- What has been heard, without the restarts and without the times that the snapshots took. -/
def plain (fs : List (Instant × Snapshot)) : List Heard := fs.map fun f => .snapshot f.2 f.1 0

/-- A store goes the way of one that hears the same snapshots and no restart. -/
theorem Alike.hear_plain (h : Alike s s') (d d' : Disk) (hs : List Heard) :
    Alike (hear d s hs) (hear d' s' (plain (feeds hs))) ∧
      outcomes d' s' (plain (feeds hs)) = outcomes d s hs := by
  induction hs generalizing s s' d d' with
  | nil => exact ⟨h, rfl⟩
  | cons x hs ih =>
    cases x with
    | restart => exact ih h.noteRestart d d'
    | snapshot snapshot now ms =>
      obtain ⟨halike, houtcomes⟩ := ih (h.feed snapshot now ms 0) d d'
      refine ⟨halike, ?_⟩
      exact congrArg₂ List.cons (h.outcome snapshot now ms 0) houtcomes

/-- Stores that hear the same snapshots at the same times, with whatever restarts in between. -/
theorem Alike.hear (h : Alike s s') (d d' : Disk) {hs hs' : List Heard}
    (hfeeds : feeds hs' = feeds hs) :
    Alike (hear d s hs) (Store.hear d' s' hs') ∧ outcomes d' s' hs' = outcomes d s hs := by
  obtain ⟨halike, houtcomes⟩ := h.hear_plain d d hs
  obtain ⟨halike', houtcomes'⟩ := (Alike.refl s').hear_plain d' d hs'
  rw [hfeeds] at halike' houtcomes'
  exact ⟨halike.trans halike'.symm, houtcomes'.symm.trans houtcomes⟩

theorem hear_counts (d : Disk) (s : Store) (hs : List Heard) :
    (Store.hear d s hs).streamRestarts = s.streamRestarts + restarts hs ∧
      (Store.hear d s hs).revision = s.revision + (feeds hs).length + restarts hs := by
  induction hs generalizing s with
  | nil => exact ⟨rfl, rfl⟩
  | cons x hs ih =>
    cases x with
    | restart =>
      obtain ⟨hrestarts, hrevision⟩ := ih s.noteRestart
      have hcount : restarts (.restart :: hs) = restarts hs + 1 := by simp [restarts, Heard.fed?]
      have hfeeds : feeds (.restart :: hs) = feeds hs := rfl
      rw [hcount, hfeeds]
      exact ⟨hrestarts.trans (by simp [noteRestart, publish]; omega),
        hrevision.trans (by simp [noteRestart, publish]; omega)⟩
    | snapshot snapshot now ms =>
      obtain ⟨hrestarts, hrevision⟩ := ih (s.feed snapshot now ms).1
      have hcount : restarts (.snapshot snapshot now ms :: hs) = restarts hs := by
        simp [restarts, Heard.fed?]
      have hfeeds : (feeds (.snapshot snapshot now ms :: hs)).length = (feeds hs).length + 1 := by
        simp [feeds, Heard.fed?]
      rw [hcount, hfeeds]
      exact ⟨hrestarts, hrevision.trans (by simp [Store.feed, publish]; omega)⟩

theorem Tidy.hear (h : s.Tidy) (d : Disk) (hs : List Heard) : (Store.hear d s hs).Tidy := h.run d _

/-- The views of two stores that were created alike and have heard the same snapshots at the same
times. -/
theorem view_hear_create (d d' : Disk) (settings : SettingsStore) {hs hs' : List Heard}
    (hfeeds : feeds hs' = feeds hs) :
    (Store.hear d' (create settings) hs').view =
      { (Store.hear d (create settings) hs).view with
        streamRestarts := restarts hs'
        revision := (feeds hs').length + restarts hs' } := by
  have htidy := tidy_create settings
  obtain ⟨halike, -⟩ := (Alike.refl (create settings)).hear d d' hfeeds
  obtain ⟨hrestarts, hrevision⟩ := hear_counts d' (create settings) hs'
  have hzero : (create settings).streamRestarts = 0 ∧ (create settings).revision = 0 := ⟨rfl, rfl⟩
  rw [hzero.1, Nat.zero_add] at hrestarts
  rw [hzero.2, Nat.zero_add] at hrevision
  rw [(htidy.hear d hs).shown, (htidy.hear d' hs').shown]
  simp only [current, halike.table, halike.keepClosed, halike.updatedAt, hrestarts, hrevision]

end TrafficWatch.Tracking.Store
