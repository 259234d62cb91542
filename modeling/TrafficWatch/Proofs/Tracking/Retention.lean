import TrafficWatch.Proofs.Tracking.Eviction
import TrafficWatch.Tracking.Store

/-!
The store without retention. No closed row outlives the operation that closed it, although a
snapshot that closes nothing drops nothing: by then there is no closed row left to drop.
-/

namespace TrafficWatch.Tracking

open Files Time Wire

namespace Table

variable {t : Table}

theorem reappeared_apply (h : t.Sound) (hopen : ∀ id, t.isClosed id = false) (s : Snapshot)
    (now : Instant) : (t.apply s now).2.reappeared = [] := by
  rw [outcome_apply h]
  exact List.filter_eq_nil_iff.mpr fun id _ => by simp [hopen id]

/-- A snapshot that reports no closure leaves no closed row where there was none. -/
theorem isClosed_apply (h : t.Sound) (hopen : ∀ id, t.isClosed id = false) {s : Snapshot}
    {now : Instant} (hnone : (t.apply s now).2.completed = []) (id : String) :
    (t.apply s now).1.isClosed id = false := by
  rw [outcome_apply h] at hnone
  have ho := hopen id
  unfold isClosed at ho ⊢
  rw [get?_apply h]
  cases hrow : t.get? id with
  | none => cases s.report? id <;> rfl
  | some row =>
    have hc : row.completed = false := by simpa [hrow] using ho
    cases hr : s.report? id with
    | some r => simp [Row.next, Row.observe, hc]
    | none =>
      have hid : id ∈ t.order := (h.mem_order id).mpr (by simp [hrow])
      have hlisted : id ∉ s.ids := by simp [Snapshot.mem_ids, hr]
      have hisOpen : t.isOpen id = true := by simp [isOpen, hrow, hc]
      have hm := List.filter_eq_nil_iff.mp hnone id hid
      simp [hlisted, hisOpen] at hm

end Table

namespace Store

/-- What holds of a store between any two operations. -/
structure Tidy (s : Store) : Prop where
  sound : s.table.Sound
  shown : s.view = s.current
  dropped : s.keepClosed = false → ∀ id, s.table.isClosed id = false

variable {s : Store}

theorem tidy_create (settings : SettingsStore) : (create settings).Tidy where
  sound := Table.sound_empty
  shown := rfl
  dropped _ id := by simp [create, Table.isClosed, Table.get?_empty]

/-- A feed without retention leaves what dropping the closed rows each time would leave. -/
theorem Tidy.feed_table (h : s.Tidy) (hoff : s.keepClosed = false) (snapshot : Snapshot)
    (now : Instant) (ms : Float) : (s.feed snapshot now ms).1.table =
      (s.table.apply snapshot now).1.evictCompleted.1 := by
  by_cases hc : (s.table.apply snapshot now).2.completed = []
  · have ht : (s.feed snapshot now ms).1.table = (s.table.apply snapshot now).1 := by
      simp [Store.feed, publish, hoff, hc]
    have hopen := Table.isClosed_apply h.sound (h.dropped hoff) hc
    rw [ht, Table.evictCompleted_of_none_closed (h.sound.apply snapshot now) hopen]
  · simp [Store.feed, publish, hoff, hc]

theorem feed_table_of_keep (hon : s.keepClosed = true) (snapshot : Snapshot) (now : Instant)
    (ms : Float) : (s.feed snapshot now ms).1.table = (s.table.apply snapshot now).1 := by
  simp [Store.feed, publish, hon]

theorem Tidy.feed (h : s.Tidy) (snapshot : Snapshot) (now : Instant) (ms : Float) :
    (s.feed snapshot now ms).1.Tidy := by
  cases hk : s.keepClosed with
  | true =>
    refine ⟨?_, rfl, fun hoff => ?_⟩
    · rw [feed_table_of_keep hk]
      exact h.sound.apply snapshot now
    · exact absurd (hk.symm.trans hoff) (by decide)
  | false =>
    refine ⟨?_, rfl, fun _ => ?_⟩
    · rw [h.feed_table hk]
      exact (h.sound.apply snapshot now).evictCompleted
    · rw [h.feed_table hk]
      exact Table.isClosed_evictCompleted _

theorem Tidy.setRetention (h : s.Tidy) (d : Disk) (keep : Bool) : (setRetention d s keep).2.Tidy := by
  cases keep with
  | true => exact ⟨h.sound, rfl, fun hoff => by cases hoff⟩
  | false => exact ⟨h.sound.evictCompleted, rfl, fun _ => Table.isClosed_evictCompleted s.table⟩

theorem clearClosed_table (h : s.table.Sound) :
    s.clearClosed.1.table = s.table.evictCompleted.1 := by
  by_cases hc : 0 < s.table.evictCompleted.2
  · simp [clearClosed, publish, hc]
  · have hopen := Table.isClosed_of_count_zero h (Nat.eq_zero_of_not_pos hc)
    rw [Table.evictCompleted_of_none_closed h hopen]
    simp [clearClosed, hc]

theorem Tidy.clearClosed (h : s.Tidy) : s.clearClosed.1.Tidy := by
  refine ⟨?_, ?_, fun _ => ?_⟩
  · rw [clearClosed_table h.sound]
    exact h.sound.evictCompleted
  · unfold Store.clearClosed
    split
    split
    · rfl
    · exact h.shown
  · rw [clearClosed_table h.sound]
    exact Table.isClosed_evictCompleted s.table

theorem Tidy.step (h : s.Tidy) (d : Disk) (op : Op) : (step d s op).1.2.Tidy := by
  cases op with
  | feed snapshot now ms => exact h.feed snapshot now ms
  | toggle => exact h.setRetention d (! s.keepClosed)
  | setRetention keep => exact h.setRetention d keep
  | clearClosed => exact h.clearClosed
  | restart => exact ⟨h.sound, rfl, h.dropped⟩

theorem Tidy.run (h : s.Tidy) (d : Disk) (ops : List Op) : (run d s ops).2.Tidy := by
  induction ops generalizing d s with
  | nil => exact h
  | cons op ops ih => exact ih (h.step d op) _

theorem Tidy.open_of_mem_rows (h : s.Tidy) (hoff : s.keepClosed = false) {row : Row}
    (hrow : row ∈ s.view.rows) : row.completed = false := by
  rw [h.shown] at hrow
  obtain ⟨id, -, hid⟩ := List.mem_filterMap.mp hrow
  have ho := h.dropped hoff id
  unfold Table.isClosed at ho
  simpa [hid] using ho

/-- Whatever has been done to a store, and with whatever preference it began: while retention is
off its view has no closed row, so no snapshot finds a closed connection again. That only snapshots
that close something have the closed rows dropped leaves none behind. -/
theorem no_closed_rows_without_retention (d : Disk) (settings : SettingsStore) (ops : List Op)
    (hoff : (run d (create settings) ops).2.keepClosed = false) :
    (run d (create settings) ops).2.view.keepClosed = false ∧
      (∀ row ∈ (run d (create settings) ops).2.view.rows, row.completed = false) ∧
      ∀ snapshot now ms,
        ((run d (create settings) ops).2.feed snapshot now ms).2.reappeared = [] ∧
        ((run d (create settings) ops).2.feed snapshot now ms).1.table =
          ((run d (create settings) ops).2.table.apply snapshot now).1.evictCompleted.1 := by
  have h := (tidy_create settings).run d ops
  refine ⟨?_, fun row hrow => h.open_of_mem_rows hoff hrow, fun snapshot now ms => ⟨?_, ?_⟩⟩
  · rw [h.shown]
    exact hoff
  · exact Table.reappeared_apply h.sound (h.dropped hoff) snapshot now
  · exact h.feed_table hoff snapshot now ms

/-- Retention is turned off while a closed row is there, and a connection closes afterwards. -/
def turnedOff : List Op := [
  .feed { connections := [{ id := some "a" }, { id := some "b" }] } ⟨0, 0, 0⟩ 1,
  .feed { connections := [{ id := some "b" }] } ⟨0, 1, 0⟩ 1,
  .toggle,
  .feed { connections := [{ id := some "c" }] } ⟨0, 2, 0⟩ 1]

theorem no_closed_rows_of_turnedOff :
    (run .empty (create (.inMemory {})) turnedOff).2.view.rows.map (·.id) = ["c"] ∧
      (∀ row ∈ (run .empty (create (.inMemory {})) turnedOff).2.view.rows,
        row.completed = false) ∧
      ((run .empty (create (.inMemory {})) turnedOff).2.feed
        { connections := [{ id := some "a" }] } ⟨0, 3, 0⟩ 1).2.reappeared = [] := by
  obtain ⟨-, hopen, hfeed⟩ :=
    no_closed_rows_without_retention .empty (.inMemory {}) turnedOff (by decide +kernel)
  exact ⟨by decide +kernel, hopen, (hfeed _ _ _).1⟩

end Store

end TrafficWatch.Tracking
