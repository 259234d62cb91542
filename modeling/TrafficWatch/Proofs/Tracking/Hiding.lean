import TrafficWatch.Proofs.Tracking.Retention

/-!
Two stores that are asked the same, one of which keeps closed rows. As long as no ID is used for a
second connection, the other shows just the open rows of the first one.
-/

namespace TrafficWatch.Tracking

open Files Time Wire

/-- No snapshot lists an ID that an earlier one left out after it had been listed. -/
def NeverReused (ss : List Snapshot) : Prop :=
  ∀ s s' s'' id, [s, s', s''].Sublist ss → id ∈ s.ids → id ∉ s'.ids → id ∉ s''.ids

namespace Table

variable {t : Table} {past : List Snapshot}

/-- Rows come from snapshots that listed them, and closed ones were left out later. -/
def Remembers (past : List Snapshot) (t : Table) : Prop :=
  ∀ id row, t.get? id = some row → (∃ s ∈ past, id ∈ s.ids) ∧
    (row.completed = true → ∃ s s', [s, s'].Sublist past ∧ id ∈ s.ids ∧ id ∉ s'.ids)

theorem remembers_empty : Remembers past empty := by
  intro id row hrow
  rw [get?_empty] at hrow
  cases hrow

theorem Remembers.evictCompleted (hr : Remembers past t) : Remembers past t.evictCompleted.1 := by
  intro id row hrow
  rw [get?_evictCompleted] at hrow
  exact hr id row (Option.filter_eq_some_iff.mp hrow).1

theorem Remembers.apply (h : t.Sound) (hr : Remembers past t) (s : Snapshot) (now : Instant) :
    Remembers (past ++ [s]) (t.apply s now).1 := by
  intro id row' hrow'
  rw [get?_apply h] at hrow'
  have hids := s.mem_ids id
  cases hrow : t.get? id with
  | none =>
    rw [hrow] at hrow'
    obtain ⟨r, hreport, rfl⟩ := Option.map_eq_some_iff.mp hrow'
    exact ⟨⟨s, by simp, hids.mpr (by simp [hreport])⟩, fun hc => by cases hc⟩
  | some row =>
    obtain ⟨⟨first, hfirst, hlisted⟩, hclosed⟩ := hr id row hrow
    refine ⟨⟨first, List.mem_append_left _ hfirst, hlisted⟩, fun hc' => ?_⟩
    by_cases hc : row.completed = true
    · obtain ⟨a, b, hsub, hab⟩ := hclosed hc
      exact ⟨a, b, hsub.trans (List.sublist_append_left ..), hab⟩
    · rw [hrow] at hrow'
      cases hreport : s.report? id with
      | some r =>
        -- an open row that is reported stays open
        simp only [Row.next, hc, hreport, Bool.false_eq_true, ↓reduceIte, Option.some.injEq] at hrow'
        rw [← hrow'] at hc'
        exact absurd hc' hc
      | none =>
        have hleft : id ∉ s.ids := fun hm => by simpa [hreport] using hids.mp hm
        exact ⟨first, s, (List.singleton_sublist.mpr hfirst).append (List.Sublist.refl [s]),
          hlisted, hleft⟩

theorem Remembers.not_isClosed (hr : Remembers past t) {s : Snapshot}
    (hnew : NeverReused (past ++ [s])) {id : String} (hid : id ∈ s.ids) : t.isClosed id = false := by
  unfold isClosed
  cases hrow : t.get? id with
  | none => rfl
  | some row =>
    by_contra hc
    have hclosed : row.completed = true := by simpa using hc
    obtain ⟨a, b, hsub, ha, hb⟩ := (hr id row hrow).2 hclosed
    exact hnew a b s id (hsub.append (List.Sublist.refl [s])) ha hb hid

end Table

namespace Store

/-- The snapshots that some operations feed. -/
def snapshots (ops : List Op) : List Snapshot :=
  ops.filterMap fun
    | .feed s _ _ => some s
    | _ => none

/-- The same call on two stores. The time it takes may differ. -/
inductive SameCall : Op → Op → Prop where
  | feed (s : Snapshot) (now : Instant) (ms ms' : Float) :
    SameCall (.feed s now ms) (.feed s now ms')
  | clearClosed : SameCall .clearClosed .clearClosed
  | restart : SameCall .restart .restart

/-- The results of some operations, each with the view that it leaves. -/
def history (d : Disk) (s : Store) : List Op → List (Result × View)
  | [] => []
  | op :: ops =>
    let r := step d s op
    (r.2, r.1.2.view) :: history r.1.1 r.1.2 ops

/-- A view with closed rows, and the same view without them. -/
structure Hides (on off : View) : Prop where
  rows : off.rows = on.rows.filter (! ·.completed)
  totals : off.totals = on.totals
  updatedAt : off.updatedAt = on.updatedAt

/-- Feeds that tell the same, except perhaps of connections that came back. -/
def TellsSame : Result → Result → Prop
  | .fed o, .fed o' => o'.created = o.created ∧ o'.completed = o.completed ∧ o'.skipped = o.skipped
  | .cleared _, .cleared _ => True
  | .restarted, .restarted => True
  | _, _ => False

/-- A store that keeps closed rows and one that does not, after the same snapshots. -/
structure Lockstep (past : List Snapshot) (on off : Store) : Prop where
  tidy : on.Tidy
  tidyOff : off.Tidy
  kept : on.keepClosed = true
  dropped : off.keepClosed = false
  table : off.table = on.table.evictCompleted.1
  updatedAt : off.updatedAt = on.updatedAt
  remembers : Table.Remembers past on.table

variable {past : List Snapshot} {on off : Store}

theorem Lockstep.hides (h : Lockstep past on off) : Hides on.view off.view where
  rows := by
    rw [h.tidy.shown, h.tidyOff.shown, current, current, h.table, Table.rows_evictCompleted]
  totals := by
    rw [h.tidy.shown, h.tidyOff.shown, current, current, h.table]
    rfl
  updatedAt := by
    rw [h.tidy.shown, h.tidyOff.shown]
    exact h.updatedAt

theorem Lockstep.feed (h : Lockstep past on off) (s : Snapshot) (now : Instant) (ms ms' : Float)
    (hnew : NeverReused (past ++ [s])) :
    Lockstep (past ++ [s]) (on.feed s now ms).1 (off.feed s now ms').1 ∧
      (off.feed s now ms').2 = (on.feed s now ms).2 := by
  obtain ⟨htable, houtcome⟩ := Table.evictCompleted_apply h.tidy.sound s now
    fun id hid => h.remembers.not_isClosed hnew hid
  constructor
  · exact {
      tidy := h.tidy.feed s now ms
      tidyOff := h.tidyOff.feed s now ms'
      kept := h.kept
      dropped := h.dropped
      table := by
        rw [h.tidyOff.feed_table h.dropped, feed_table_of_keep h.kept, h.table, htable]
      updatedAt := rfl
      remembers := by
        rw [feed_table_of_keep h.kept]
        exact h.remembers.apply h.tidy.sound s now }
  · have ho : (off.feed s now ms').2 = (off.table.apply s now).2 := rfl
    rw [ho, h.table, houtcome]
    rfl

theorem clearClosed_keepClosed (s : Store) : s.clearClosed.1.keepClosed = s.keepClosed := by
  unfold Store.clearClosed
  split
  split <;> rfl

theorem clearClosed_updatedAt (s : Store) : s.clearClosed.1.updatedAt = s.updatedAt := by
  unfold Store.clearClosed
  split
  split <;> rfl

/-- Clearing drops what the other store dropped when it was closed. -/
theorem Lockstep.clearClosed (h : Lockstep past on off) :
    Lockstep past on.clearClosed.1 off.clearClosed.1 := by
  have hon := clearClosed_table h.tidy.sound
  have hoff := clearClosed_table h.tidyOff.sound
  exact {
    tidy := h.tidy.clearClosed
    tidyOff := h.tidyOff.clearClosed
    kept := (clearClosed_keepClosed on).trans h.kept
    dropped := (clearClosed_keepClosed off).trans h.dropped
    table := by rw [hon, hoff, h.table]
    updatedAt := by rw [clearClosed_updatedAt, clearClosed_updatedAt, h.updatedAt]
    remembers := by
      rw [hon]
      exact h.remembers.evictCompleted }

theorem Lockstep.step (h : Lockstep past on off) {op op' : Op} (hop : SameCall op op')
    (hnew : NeverReused (past ++ snapshots [op])) (d d' : Disk) :
    Lockstep (past ++ snapshots [op]) (step d on op).1.2 (step d' off op').1.2 ∧
      TellsSame (step d on op).2 (step d' off op').2 := by
  cases hop with
  | feed s now ms ms' =>
    obtain ⟨hlock, houtcome⟩ := h.feed s now ms ms' hnew
    refine ⟨hlock, ?_⟩
    have ho : TellsSame (.fed (on.feed s now ms).2) (.fed (off.feed s now ms').2) := by
      rw [houtcome]
      exact ⟨rfl, rfl, rfl⟩
    exact ho
  | clearClosed =>
    refine ⟨?_, trivial⟩
    rw [show snapshots [Op.clearClosed] = [] from rfl, List.append_nil]
    exact h.clearClosed
  | restart =>
    refine ⟨?_, trivial⟩
    rw [show snapshots [Op.restart] = [] from rfl, List.append_nil]
    exact { h with tidy := h.tidy.step d .restart, tidyOff := h.tidyOff.step d' .restart }

theorem Lockstep.history (h : Lockstep past on off) {ops ops' : List Op}
    (hops : List.Forall₂ SameCall ops ops') (hnew : NeverReused (past ++ snapshots ops))
    (d d' : Disk) :
    List.Forall₂ (fun x y => TellsSame x.1 y.1 ∧ Hides x.2 y.2) (history d on ops)
      (history d' off ops') := by
  induction hops generalizing past on off d d' with
  | nil => exact .nil
  | @cons op op' ops ops' hop hops ih =>
    have hsplit : snapshots (op :: ops) = snapshots [op] ++ snapshots ops := by
      unfold snapshots
      rw [← List.filterMap_append, List.singleton_append]
    rw [hsplit, ← List.append_assoc] at hnew
    have hfirst : NeverReused (past ++ snapshots [op]) := fun s s' s'' id hs =>
      hnew s s' s'' id (hs.trans (List.sublist_append_left ..))
    obtain ⟨hlock, htells⟩ := h.step hop hfirst d d'
    exact .cons ⟨htells, hlock.hides⟩ (ih hlock hnew _ _)

/-- Retention only hides. Ask two stores the same, one with retention and one without, and never let
an ID come back after a snapshot left it out: at every step the second one shows the open rows of
the first, with the same totals and time, and tells the same of every snapshot. -/
theorem retention_only_hides (d d' : Disk) (kept dropped : SettingsStore)
    (hon : kept.current.keepClosed = true) (hoff : dropped.current.keepClosed = false)
    {ops ops' : List Op} (hops : List.Forall₂ SameCall ops ops')
    (hnew : NeverReused (snapshots ops)) :
    List.Forall₂ (fun x y => TellsSame x.1 y.1 ∧ Hides x.2 y.2) (history d (create kept) ops)
      (history d' (create dropped) ops') := by
  have hstart : Lockstep [] (create kept) (create dropped) := {
    tidy := tidy_create kept
    tidyOff := tidy_create dropped
    kept := hon
    dropped := hoff
    table := (Table.evictCompleted_of_none_closed Table.sound_empty fun id => by
      simp [Table.isClosed, Table.get?_empty]).symm
    updatedAt := rfl
    remembers := Table.remembers_empty }
  exact hstart.history hops hnew d d'

/-- Two connections, of which the second outlives the first one by a snapshot. -/
def briefRun : List Op := [
  .feed { connections := [{ id := some "a" }, { id := some "b" }] } ⟨0, 0, 0⟩ 1,
  .feed { connections := [{ id := some "b" }] } ⟨0, 1, 0⟩ 1,
  .clearClosed,
  .feed { connections := [{ id := some "c" }] } ⟨0, 2, 0⟩ 1,
  .restart]

/-- The IDs that each view of a run lists. -/
def listings (h : List (Result × View)) : List (List String) := h.map (·.2.rows.map (·.id))

theorem retention_hides_briefRun :
    List.Forall₂ (fun x y => TellsSame x.1 y.1 ∧ Hides x.2 y.2)
      (history .empty (create (.inMemory { keepClosed := true })) briefRun)
      (history .empty (create (.inMemory { keepClosed := false })) briefRun) ∧
    listings (history .empty (create (.inMemory { keepClosed := true })) briefRun) =
      [["a", "b"], ["a", "b"], ["b"], ["b", "c"], ["b", "c"]] ∧
    listings (history .empty (create (.inMemory { keepClosed := false })) briefRun) =
      [["a", "b"], ["b"], ["b"], ["c"], ["c"]] := by
  refine ⟨retention_only_hides _ _ _ _ rfl rfl ?_ ?_, by decide +kernel, by decide +kernel⟩
  · exact .cons (.feed ..) (.cons (.feed ..) (.cons .clearClosed (.cons (.feed ..)
      (.cons .restart .nil))))
  · intro s s' s'' id hs hfirst hsecond
    -- the run has three snapshots, so these are they
    obtain ⟨rfl, rfl, rfl⟩ : _ ∧ _ ∧ _ := by simpa [snapshots, briefRun] using hs.eq_of_length rfl
    have hids : Snapshot.ids { connections := [{ id := some "a" }, { id := some "b" }] } =
      ["a", "b"] := by decide +kernel
    rw [hids, List.mem_pair] at hfirst
    rcases hfirst with rfl | rfl
    · decide +kernel
    · decide +kernel

end Store

end TrafficWatch.Tracking
