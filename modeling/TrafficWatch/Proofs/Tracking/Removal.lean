import TrafficWatch.Proofs.Tracking.Eviction
import TrafficWatch.Proofs.Tracking.Fates

/-!
Dropping all closed rows at once and dropping rows one by one. Either way the table is restricted to
the rows that some condition keeps, and restrictions put one after the other are the restriction to
what all of them keep. So their order makes no difference, and all that remains to be compared is
which rows are kept.
-/

namespace TrafficWatch.Tracking.Table

/-- The rows that a condition keeps, in their order. -/
def restrict (t : Table) (keep : String → Row → Bool) : Table :=
  let byId := t.byId.filter keep
  { t with byId, order := t.order.filter byId.contains }

variable {t : Table} {keep keep' : String → Row → Bool}

theorem get?_restrict (t : Table) (keep : String → Row → Bool) (id : String) :
    (t.restrict keep).get? id = (t.get? id).filter (keep id) :=
  Std.ExtTreeMap.getElem?_filter'

theorem order_restrict (t : Table) (keep : String → Row → Bool) :
    (t.restrict keep).order = t.order.filter fun id => ((t.restrict keep).get? id).isSome := by
  apply List.filter_congr
  intro id _
  exact Std.ExtTreeMap.contains_eq_isSome_getElem?

/-- A restriction is known by what it holds under each ID. -/
theorem eq_restrict {u : Table} (hget : ∀ id, u.get? id = (t.get? id).filter (keep id))
    (horder : u.order = t.order.filter fun id => (u.get? id).isSome)
    (htotals : u.totals = t.totals) (hcycles : u.cycles = t.cycles) : u = t.restrict keep := by
  have hget' (id : String) : u.get? id = (t.restrict keep).get? id := by
    rw [hget, get?_restrict]
  refine ext_get? ?_ htotals hcycles hget'
  rw [horder, order_restrict]
  apply List.filter_congr
  intro id _
  rw [hget']

theorem restrict_congr (h : ∀ id row, t.get? id = some row → keep id row = keep' id row) :
    t.restrict keep = t.restrict keep' := by
  refine eq_restrict (fun id => ?_) (order_restrict t keep) rfl rfl
  rw [get?_restrict]
  cases hrow : t.get? id with
  | none => rfl
  | some row => rw [Option.filter_some, Option.filter_some, h id row hrow]

theorem restrict_restrict (t : Table) (keep keep' : String → Row → Bool) :
    (t.restrict keep).restrict keep' = t.restrict fun id row => keep id row && keep' id row := by
  refine eq_restrict (fun id => ?_) ?_ rfl rfl
  · rw [get?_restrict, get?_restrict, Option.filter_filter]
  · rw [order_restrict, order_restrict, List.filter_filter]
    apply List.filter_congr
    intro id _
    rw [get?_restrict, get?_restrict]
    cases t.get? id with
    | none => rfl
    | some row => cases hkeep : keep id row <;> simp [hkeep]

theorem restrict_of_all (h : t.Sound) (hall : ∀ id row, t.get? id = some row → keep id row = true) :
    t.restrict keep = t := by
  symm
  refine eq_restrict (fun id => ?_) ?_ rfl rfl
  · cases hrow : t.get? id with
    | none => rfl
    | some row => rw [Option.filter_some, if_pos (hall id row hrow)]
  · symm
    apply List.filter_eq_self.mpr
    intro id hid
    exact (h.mem_order id).mp hid

theorem Sound.restrict (h : t.Sound) (keep : String → Row → Bool) : (t.restrict keep).Sound := by
  apply h.filter _ (order_restrict t keep)
  · intro id row hrow
    rw [get?_restrict] at hrow
    exact (Option.filter_eq_some_iff.mp hrow).1
  · intro id
    rw [get?_restrict]
    cases t.get? id <;> simp

theorem rows_restrict (h : t.Sound) (keep : String → Row → Bool) :
    (t.restrict keep).rows = t.rows.filter fun row => keep row.id row := by
  rw [rows, rows, order_restrict, List.filterMap_filter, List.filter_filterMap]
  apply List.filterMap_congr
  intro id _
  rw [get?_restrict]
  cases hrow : t.get? id with
  | none => rfl
  | some row =>
    rw [Option.filter_some, Option.filter_some, h.id_eq id row hrow]
    cases keep id row <;> rfl

theorem evictCompleted_eq_restrict (t : Table) :
    t.evictCompleted.1 = t.restrict fun _ row => ! row.completed := rfl

theorem evict_eq_restrict (h : t.Sound) (id : String) :
    (t.evict id).1 = t.restrict fun other _ => other != id := by
  cases hrow : t.get? id with
  | none =>
    rw [evict_absent t id hrow, restrict_of_all h]
    intro other row ho
    apply bne_iff_ne.mpr
    rintro rfl
    exact nomatch hrow.symm.trans ho
  | some row =>
    have hget (other : String) :
        (t.evict id).1.get? other = (t.get? other).filter fun _ => other != id := by
      rw [get?_evict]
      by_cases hid : id = other
      · cases t.get? other <;> simp [hid]
      · have hne : (other != id) = true := bne_iff_ne.mpr (Ne.symm hid)
        rw [if_neg hid]
        cases t.get? other with
        | none => rfl
        | some row => rw [Option.filter_some, if_pos hne]
    refine eq_restrict hget ?_ ?_ ?_
    · have horder : (t.evict id).1.order = t.order.filter (· != id) := by simp [evict, hrow]
      rw [horder]
      apply List.filter_congr
      intro other hother
      obtain ⟨row', hrow'⟩ := Option.isSome_iff_exists.mp ((h.mem_order other).mp hother)
      rw [hget, hrow']
      cases other != id <;> simp
    · simp [evict, hrow]
    · simp [evict, hrow]

theorem evict_result (t : Table) (id : String) : (t.evict id).2 = t.get? id := by
  unfold evict
  cases t.get? id <;> rfl

theorem count_evictCompleted (h : t.Sound) :
    t.evictCompleted.2 = (t.rows.filter (·.completed)).length := by
  have hcount : t.evictCompleted.2 = t.order.length - t.evictCompleted.1.order.length := rfl
  rw [hcount, ← map_id_rows h, ← map_id_rows h.evictCompleted, List.length_map, List.length_map,
    rows_evictCompleted]
  have hsplit := List.length_eq_length_filter_add (l := t.rows) (·.completed)
  omega

/-- An operation that only takes rows away: the one of an ID, or all that are closed. -/
inductive Removal where
  | one (id : String)
  | closed
deriving DecidableEq, Repr

namespace Removal

def op : Removal → Op
  | .one id => .evict id
  | .closed => .evictCompleted

def keeps : Removal → String → Row → Bool
  | .one id, other, _ => other != id
  | .closed, _, row => ! row.completed

end Removal

theorem step_removal (h : t.Sound) (r : Removal) : (t.step r.op).1 = t.restrict r.keeps := by
  cases r with
  | one id => exact evict_eq_restrict h id
  | closed => rfl

/-- A run of removals keeps what each of them keeps. -/
theorem run_removals (h : t.Sound) (rs : List Removal) :
    (t.run (rs.map Removal.op)).1 = t.restrict fun id row => rs.all (·.keeps id row) := by
  induction rs generalizing t with
  | nil =>
    symm
    apply restrict_of_all h
    intros
    rfl
  | cons r rs ih =>
    have hstep : (t.run ((r :: rs).map Removal.op)).1 =
        ((t.step r.op).1.run (rs.map Removal.op)).1 := rfl
    rw [hstep, step_removal h, ih (h.restrict r.keeps), restrict_restrict]
    rfl

theorem run_removals_perm (h : t.Sound) {rs rs' : List Removal} (hperm : rs.Perm rs') :
    (t.run (rs.map Removal.op)).1 = (t.run (rs'.map Removal.op)).1 := by
  rw [run_removals h, run_removals h]
  apply restrict_congr
  intro id row _
  exact hperm.all_eq

/-- Each of several rows is found where no other eviction has touched it. -/
theorem run_evict_results {ids : List String} (hnodup : ids.Nodup) (t : Table) :
    (t.run (ids.map .evict)).2 = ids.map fun id => .evicted (t.get? id) := by
  induction ids generalizing t with
  | nil => rfl
  | cons id ids ih =>
    rw [List.nodup_cons] at hnodup
    have hstep : (t.run ((id :: ids).map .evict)).2 =
        .evicted (t.evict id).2 :: ((t.evict id).1.run (ids.map .evict)).2 := rfl
    rw [hstep, ih hnodup.2, evict_result, List.map_cons]
    congr 1
    apply List.map_congr_left
    intro other hother
    have hne : id ≠ other := fun heq => hnodup.1 (heq ▸ hother)
    rw [get?_evict, if_neg hne]

/-- The IDs of the closed rows are those that dropping the closed rows does not keep. -/
theorem keeps_closedIds (h : t.Sound) {ids : List String}
    (hids : ids.Perm ((t.rows.filter (·.completed)).map (·.id))) {id : String} {row : Row}
    (hrow : t.get? id = some row) :
    (ids.map Removal.one).all (·.keeps id row) = ! row.completed := by
  have hmem : id ∈ ids ↔ row.completed = true := by
    rw [hids.mem_iff, List.mem_map]
    constructor
    · rintro ⟨row', hrow', rfl⟩
      obtain ⟨hmem, hcompleted⟩ := List.mem_filter.mp hrow'
      rw [get?_of_mem_rows h hmem] at hrow
      cases hrow
      exact hcompleted
    · intro hcompleted
      have hid := h.id_eq id row hrow
      have hmem : row ∈ t.rows := (mem_rows_iff h).mpr (hid ▸ hrow)
      exact ⟨row, List.mem_filter.mpr ⟨hmem, hcompleted⟩, hid⟩
  have hall : (ids.map Removal.one).all (·.keeps id row) = ! ids.contains id := by
    rw [List.all_map, Bool.eq_iff_iff, List.all_eq_true, Bool.not_eq_true', ← Bool.not_eq_true,
      List.contains_iff_mem]
    constructor
    · intro hall hid
      exact bne_iff_ne.mp (hall id hid) rfl
    · intro hid other hother
      apply bne_iff_ne.mpr
      rintro rfl
      exact hid hother
  rw [hall, Bool.not_inj_iff, Bool.eq_iff_iff, List.contains_iff_mem, hmem]

/-- What evictions do to a table, one by one and all at once. -/
structure Evictable (t : Table) : Prop where
  count : t.evictCompleted.2 = (t.rows.filter (·.completed)).length
  /-- The closed rows may as well go one by one, in any order, and each one is handed out. -/
  oneByOne : ∀ ids : List String, ids.Perm ((t.rows.filter (·.completed)).map (·.id)) →
    t.run (ids.map .evict) = (t.evictCompleted.1, ids.map fun id => .evicted (t.get? id))
  openRows : t.evictCompleted.1.rows = t.rows.filter (! ·.completed)
  counters : t.evictCompleted.1.totals = t.totals ∧ t.evictCompleted.1.cycles = t.cycles
  again : t.evictCompleted.1.evictCompleted = (t.evictCompleted.1, 0)
  absent : ∀ id, t.get? id = none → t.evict id = (t, none)
  present : ∀ id row, t.get? id = some row →
    (t.evict id).2 = some row ∧
      (t.evict id).1.rows = t.rows.filter (·.id != id) ∧
      (t.evict id).1.order = t.order.filter (· != id) ∧
      (∀ other, (t.evict id).1.get? other = if id = other then none else t.get? other) ∧
      (t.evict id).1.totals = t.totals ∧ (t.evict id).1.cycles = t.cycles
  commute : ∀ rs rs' : List Removal, rs.Perm rs' →
    (t.run (rs.map Removal.op)).1 = (t.run (rs'.map Removal.op)).1
  /-- What one eviction hands out does not depend on those of other IDs before it. -/
  results : ∀ ids : List String, ids.Nodup →
    (t.run (ids.map .evict)).2 = ids.map fun id => .evicted (t.get? id)

theorem evict_present (h : t.Sound) {id : String} {row : Row} (hrow : t.get? id = some row) :
    (t.evict id).2 = some row ∧
      (t.evict id).1.rows = t.rows.filter (·.id != id) ∧
      (t.evict id).1.order = t.order.filter (· != id) ∧
      (∀ other, (t.evict id).1.get? other = if id = other then none else t.get? other) ∧
      (t.evict id).1.totals = t.totals ∧ (t.evict id).1.cycles = t.cycles := by
  refine ⟨(evict_result t id).trans hrow, ?_, ?_, get?_evict t id, ?_, ?_⟩
  · rw [evict_eq_restrict h, rows_restrict h]
  · simp [evict, hrow]
  · simp [evict, hrow]
  · simp [evict, hrow]

theorem evictCompleted_again (h : t.Sound) :
    t.evictCompleted.1.evictCompleted = (t.evictCompleted.1, 0) := by
  have hopen := isClosed_evictCompleted t
  have hcount := count_evictCompleted h.evictCompleted
  have hnone : t.evictCompleted.1.rows.filter (·.completed) = [] := by
    rw [rows_evictCompleted, List.filter_filter]
    simp
  rw [hnone] at hcount
  exact Prod.ext (evictCompleted_of_none_closed h.evictCompleted hopen) hcount

theorem evictable (h : t.Sound) : t.Evictable where
  count := count_evictCompleted h
  oneByOne ids hids := by
    have hnodup : ids.Nodup := by
      rw [hids.nodup_iff]
      have hrows : (t.rows.map (·.id)).Nodup := map_id_rows h ▸ h.nodup
      exact hrows.sublist (List.filter_sublist.map _)
    apply Prod.ext _ (run_evict_results hnodup t)
    have hops : ids.map Op.evict = (ids.map Removal.one).map Removal.op := by
      rw [List.map_map]
      rfl
    rw [hops, run_removals h, evictCompleted_eq_restrict]
    apply restrict_congr
    intro id row hrow
    exact keeps_closedIds h hids hrow
  openRows := rows_evictCompleted t
  counters := ⟨rfl, rfl⟩
  again := evictCompleted_again h
  absent := evict_absent t
  present _ _ hrow := evict_present h hrow
  commute _ _ hperm := run_removals_perm h hperm
  results _ hnodup := run_evict_results hnodup t

/-- Whatever has been done to a table before, dropping the closed rows is dropping each of them. -/
theorem evictions_agree (ops : List Op) : (empty.run ops).1.Evictable :=
  evictable (sound_run_empty ops)

/-- Of three connections the first and the last close. -/
def closedAround : List Op := [
  .apply { connections := [{ id := some "a" }, { id := some "b" }, { id := some "c" }] } ⟨0, 0, 0⟩,
  .apply { connections := [{ id := some "b" }] } ⟨0, 1, 0⟩]

theorem evictions_agree_closedAround :
    (empty.run closedAround).1.evictCompleted.2 = 2 ∧
      (empty.run closedAround).1.evictCompleted.1.order = ["b"] ∧
      ((empty.run closedAround).1.run [.evict "c", .evict "a"]).1 =
        (empty.run closedAround).1.evictCompleted.1 := by
  have hagree := evictions_agree closedAround
  have hclosed : ((empty.run closedAround).1.rows.filter (·.completed)).map (·.id) =
      ["a", "c"] := by
    decide +kernel
  have hrun := hagree.oneByOne ["c", "a"] (hclosed ▸ .swap "a" "c" [])
  refine ⟨?_, by decide +kernel, congrArg Prod.fst hrun⟩
  rw [hagree.count, ← List.length_map, hclosed]
  rfl

end TrafficWatch.Tracking.Table
