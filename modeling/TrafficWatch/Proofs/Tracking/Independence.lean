import Mathlib.Data.List.Forall2
import TrafficWatch.Proofs.Tracking.Lookup

/-!
Two tables side by side. They hold the same of a connection, and tell the same of it, as long as
their snapshots report the same of it at the same times. What they report of other connections, and
which of those are evicted, has no influence.
-/

namespace TrafficWatch.Tracking

open Time Wire

theorem Outcome.mem_iff_of_mentions_eq {o o' : Outcome} {id : String}
    (h : o.mentions id = o'.mentions id) : (id ∈ o.created ↔ id ∈ o'.created) ∧
      (id ∈ o.completed ↔ id ∈ o'.completed) ∧ (id ∈ o.reappeared ↔ id ∈ o'.reappeared) := by
  have hcreated : o.created.count id = o'.created.count id := by
    simpa [Outcome.mentions, List.count_replicate] using congrArg (List.count Mention.created) h
  have hcompleted : o.completed.count id = o'.completed.count id := by
    simpa [Outcome.mentions, List.count_replicate] using congrArg (List.count Mention.completed) h
  have hreappeared : o.reappeared.count id = o'.reappeared.count id := by
    simpa [Outcome.mentions, List.count_replicate] using congrArg (List.count Mention.reappeared) h
  simp only [← List.count_pos_iff, hcreated, hcompleted, hreappeared, and_self]

namespace Table

/-- Operations that do the same as far as one connection goes. -/
inductive Op.SameFor (id : String) : Op → Op → Prop where
  | apply {s s' : Snapshot} (now : Instant) (h : s.report? id = s'.report? id) :
    SameFor id (.apply s now) (.apply s' now)
  | evictCompleted : SameFor id .evictCompleted .evictCompleted
  | evict : SameFor id (.evict id) (.evict id)
  | evictOther {other other' : String} (h : other ≠ id) (h' : other' ≠ id) :
    SameFor id (.evict other) (.evict other')

/-- Results that tell the same of one connection. -/
def Result.SameFor (id : String) : Result → Result → Prop
  | .applied o, .applied o' => (id ∈ o.created ↔ id ∈ o'.created) ∧
      (id ∈ o.completed ↔ id ∈ o'.completed) ∧ (id ∈ o.reappeared ↔ id ∈ o'.reappeared)
  | .evicted row, .evicted row' => row.filter (·.id == id) = row'.filter (·.id == id)
  | .dropped _, .dropped _ => True
  | _, _ => False

variable {id : String} {op op' : Op} {ops ops' : List Op} {t t' : Table}

theorem Op.SameFor.after (h : op.SameFor id op') (row : Option Row) :
    Row.after id op row = Row.after id op' row := by
  cases h with
  | apply now h => simp only [Row.after, h]
  | evictCompleted | evict => rfl
  | evictOther h h' => simp only [Row.after, if_neg h, if_neg h']

theorem evicted_of_ne (h : t.Sound) {other : String} (hne : other ≠ id) :
    (t.evict other).2.filter (·.id == id) = none := by
  unfold evict
  cases hrow : t.get? other with
  | none => rfl
  | some row =>
    have hid : row.id ≠ id := h.id_eq other row hrow ▸ hne
    simp [Option.filter, hid]

theorem Op.SameFor.result (h : op.SameFor id op') (ht : t.Sound) (ht' : t'.Sound)
    (hrow : t.get? id = t'.get? id) : (t.step op).2.SameFor id (t'.step op').2 := by
  cases h with
  | @apply s s' now h =>
    have hm : (t.apply s now).2.mentions id = (t'.apply s' now).2.mentions id := by
      rw [mentions_apply ht, mentions_apply ht', h, hrow]
    exact Outcome.mem_iff_of_mentions_eq hm
  | evictCompleted => trivial
  | evict =>
    have hevict : (t.evict id).2 = (t'.evict id).2 := by
      unfold Table.evict
      rw [hrow]
      cases t'.get? id <;> rfl
    exact congrArg (Option.filter (·.id == id)) hevict
  | evictOther h h' => exact (evicted_of_ne ht h).trans (evicted_of_ne ht' h').symm

theorem along_eq_of_sameFor (hops : List.Forall₂ (Op.SameFor id) ops ops') (row : Option Row) :
    Row.along id ops row = Row.along id ops' row := by
  induction hops generalizing row with
  | nil => rfl
  | @cons op op' ops ops' hop hops ih =>
    have htail := ih (Row.after id op row)
    rw [hop.after row] at htail
    exact (congrArg (Row.along id ops) (hop.after row)).trans htail

theorem results_of_sameFor (hops : List.Forall₂ (Op.SameFor id) ops ops') (ht : t.Sound)
    (ht' : t'.Sound) (hrow : t.get? id = t'.get? id) :
    List.Forall₂ (Result.SameFor id) (t.run ops).2 (t'.run ops').2 := by
  induction hops generalizing t t' with
  | nil => exact .nil
  | @cons op op' ops ops' hop hops ih =>
    have hnext : (t.step op).1.get? id = (t'.step op').1.get? id := by
      rw [get?_step ht, get?_step ht', hrow, hop.after]
    exact .cons (hop.result ht ht' hrow) (ih (ht.step op) (ht'.step op') hnext)

/-- Connections do not influence each other. Two runs that do the same as far as one connection goes
hold the same row of it after every step, and their results tell the same of it. -/
theorem connections_independent (hops : List.Forall₂ (Op.SameFor id) ops ops') :
    (∀ n, (empty.run (ops.take n)).1.get? id = (empty.run (ops'.take n)).1.get? id) ∧
      List.Forall₂ (Result.SameFor id) (empty.run ops).2 (empty.run ops').2 := by
  refine ⟨fun n => ?_, results_of_sameFor hops sound_empty sound_empty rfl⟩
  rw [get?_run sound_empty, get?_run sound_empty]
  exact along_eq_of_sameFor (List.forall₂_take n hops) _

/-- One connection by itself: it is reported, missed, reported again and dropped. -/
def aloneRun : List Op := [
  .apply { connections := [{ id := some "a", counters := ⟨10, 3⟩ }] } ⟨0, 0, 0⟩,
  .apply { connections := [{ id := some "a", counters := ⟨30, 4⟩ }] } ⟨0, 1, 0⟩,
  .evict "c",
  .apply {} ⟨0, 2, 0⟩,
  .apply { connections := [{ id := some "a", counters := ⟨40, 5⟩ }] } ⟨0, 3, 0⟩,
  .evictCompleted]

/-- The same among others, with repeats of its record and records that name no connection. -/
def crowdedRun : List Op := [
  .apply { connections := [{ id := some "b" }, { id := some "a", counters := ⟨10, 3⟩ },
    { id := some "" }, { id := some "a", counters := ⟨99, 9⟩ }] } ⟨0, 0, 0⟩,
  .apply { totals := ⟨7, 7⟩, connections := [{ id := none },
    { id := some "a", counters := ⟨30, 4⟩ }, { id := some "c" }] } ⟨0, 1, 0⟩,
  .evict "b",
  .apply { connections := [{ id := some "b" }, { id := some "c" }] } ⟨0, 2, 0⟩,
  .apply { connections := [{ id := some "a", counters := ⟨40, 5⟩ }] } ⟨0, 3, 0⟩,
  .evictCompleted]

theorem connections_independent_in_crowd :
    List.Forall₂ (Op.SameFor "a") aloneRun crowdedRun ∧
      (∀ n, (empty.run (aloneRun.take n)).1.get? "a" =
        (empty.run (crowdedRun.take n)).1.get? "a") ∧
      List.Forall₂ (Result.SameFor "a") (empty.run aloneRun).2 (empty.run crowdedRun).2 := by
  have hops : List.Forall₂ (Op.SameFor "a") aloneRun crowdedRun :=
    .cons (.apply _ rfl) (.cons (.apply _ rfl) (.cons (.evictOther (by decide) (by decide))
      (.cons (.apply _ rfl) (.cons (.apply _ rfl) (.cons .evictCompleted .nil)))))
  exact ⟨hops, connections_independent hops⟩

end Table

end TrafficWatch.Tracking
