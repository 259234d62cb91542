import TrafficWatch.Proofs.Tracking.Outcomes

/-!
Dropping the closed rows. What is left are the open rows as they were, in their order; where no row
is closed nothing changes. A snapshot that lists no closed connection does the same to a table with
its closed rows and to one without, but for the closed rows.
-/

namespace TrafficWatch.Tracking

open Time Wire

namespace Table

variable {t u : Table}

theorem ext_get? (horder : t.order = u.order) (htotals : t.totals = u.totals)
    (hcycles : t.cycles = u.cycles) (hget : ∀ id, t.get? id = u.get? id) : t = u := by
  obtain ⟨byId, order, totals, cycles⟩ := t
  obtain ⟨byId', order', totals', cycles'⟩ := u
  have hmap : byId = byId' := Std.ExtTreeMap.ext_getElem? hget
  subst hmap
  simp_all

theorem isOpen_eq_isSome (t : Table) (id : String) :
    t.isOpen id = (t.evictCompleted.1.get? id).isSome := by
  rw [get?_evictCompleted, isOpen]
  cases hrow : t.get? id with
  | none => rfl
  | some row => cases hc : row.completed <;> simp [hc]

theorem order_evictCompleted (t : Table) : t.evictCompleted.1.order = t.order.filter t.isOpen := by
  refine List.filter_congr fun id _ => ?_
  rw [isOpen_eq_isSome]
  exact Std.ExtTreeMap.contains_eq_isSome_getElem?

theorem rows_evictCompleted (t : Table) :
    t.evictCompleted.1.rows = t.rows.filter (! ·.completed) := by
  have hget (id : String) : t.evictCompleted.1.get? id = (t.get? id).filter (! ·.completed) :=
    get?_evictCompleted t id
  rw [rows, rows, order_evictCompleted, List.filter_filterMap, List.filterMap_filter]
  refine List.filterMap_congr fun id _ => ?_
  rw [isOpen_eq_isSome, ← hget]
  cases t.evictCompleted.1.get? id <;> rfl

theorem isClosed_evictCompleted (t : Table) (id : String) :
    t.evictCompleted.1.isClosed id = false := by
  rw [isClosed, get?_evictCompleted]
  cases t.get? id with
  | none => rfl
  | some row => cases hc : row.completed <;> simp [Option.filter, hc]

theorem isOpen_of_not_isClosed {id : String} (h : t.isClosed id = false) :
    t.isOpen id = (t.get? id).isSome := by
  unfold isClosed at h
  cases hrow : t.get? id with
  | none => simp [isOpen, hrow]
  | some row => simpa [isOpen, hrow] using h

theorem get?_evictCompleted_of_not_isClosed {id : String} (h : t.isClosed id = false) :
    t.evictCompleted.1.get? id = t.get? id := by
  unfold isClosed at h
  rw [get?_evictCompleted]
  cases hrow : t.get? id with
  | none => rfl
  | some row => simp_all

theorem evictCompleted_of_none_closed (h : t.Sound) (hopen : ∀ id, t.isClosed id = false) :
    t.evictCompleted.1 = t := by
  refine ext_get? ?_ rfl rfl fun id => get?_evictCompleted_of_not_isClosed (hopen id)
  rw [order_evictCompleted]
  refine List.filter_eq_self.mpr fun id hid => ?_
  rw [isOpen_of_not_isClosed (hopen id)]
  exact (h.mem_order id).mp hid

/-- A count of nothing means that there was nothing to drop. -/
theorem isClosed_of_count_zero (h : t.Sound) (hcount : t.evictCompleted.2 = 0) (id : String) :
    t.isClosed id = false := by
  have hlength : t.order.length ≤ (t.order.filter t.isOpen).length := by
    rw [← order_evictCompleted]
    exact Nat.le_of_sub_eq_zero hcount
  have hall : ∀ id ∈ t.order, t.isOpen id = true :=
    List.length_filter_eq_length_iff.mp (Nat.le_antisymm (List.length_filter_le ..) hlength)
  cases hrow : t.get? id with
  | none => simp [isClosed, hrow]
  | some row =>
    have ho := hall id ((h.mem_order id).mpr (by simp [hrow]))
    simpa [isOpen, isClosed, hrow] using ho

end Table

/-- A closed row that its snapshot does not list might as well have been dropped before. -/
theorem Row.filter_next {id : String} {report : Option ConnectionRecord} {row : Option Row}
    (now : Instant) (h : row.any (·.completed) = true → report = none) :
    (Row.next id report now (row.filter (! ·.completed))).filter (! ·.completed) =
      (Row.next id report now row).filter (! ·.completed) := by
  cases row with
  | none => rfl
  | some row =>
    by_cases hc : row.completed = true
    · have hr : report = none := h (by simpa using hc)
      have hd : (some row).filter (! ·.completed) = none := by simp [hc]
      have hn : Row.next id report now (some row) = some row := by simp [Row.next, hc]
      rw [hn, hd, hr]
      rfl
    · have hd : (some row).filter (! ·.completed) = some row := by simp [hc]
      rw [hd]

namespace Table

variable {t : Table}

theorem isOpen_of_isOpen_apply (h : t.Sound) (s : Snapshot) (now : Instant) {id : String}
    (hid : id ∈ t.order) (ho : (t.apply s now).1.isOpen id = true) : t.isOpen id = true := by
  obtain ⟨row, hrow⟩ := Option.isSome_iff_exists.mp ((h.mem_order id).mp hid)
  rw [isOpen, get?_apply h, hrow] at ho
  rw [isOpen, hrow]
  by_cases hc : row.completed = true
  · simp [Row.next, hc] at ho
  · simpa using hc

/-- Whether closed rows have been dropped before a snapshot makes no difference to what it does to
the others, as long as it lists no closed connection. -/
theorem evictCompleted_apply (h : t.Sound) (s : Snapshot) (now : Instant)
    (hlisted : ∀ id ∈ s.ids, t.isClosed id = false) :
    (t.evictCompleted.1.apply s now).1.evictCompleted.1 = (t.apply s now).1.evictCompleted.1 ∧
      (t.evictCompleted.1.apply s now).2 = (t.apply s now).2 := by
  have hu := h.evictCompleted
  have hisOpen (id : String) : t.evictCompleted.1.isOpen id = t.isOpen id := by
    rw [isOpen_of_not_isClosed (isClosed_evictCompleted t id), isOpen_eq_isSome]
  have houtcome : (t.evictCompleted.1.apply s now).2 = (t.apply s now).2 := by
    rw [outcome_apply h, outcome_apply hu]
    congr 1
    · exact List.filter_congr fun id hid => by
        rw [get?_evictCompleted_of_not_isClosed (hlisted id hid)]
    · rw [order_evictCompleted, List.filter_filter]
      refine List.filter_congr fun id _ => ?_
      rw [hisOpen, Bool.and_assoc, Bool.and_self]
    · refine List.filter_congr fun id hid => ?_
      rw [hlisted id hid, isClosed_evictCompleted]
  have hget (id : String) : (t.evictCompleted.1.apply s now).1.evictCompleted.1.get? id =
      (t.apply s now).1.evictCompleted.1.get? id := by
    rw [get?_evictCompleted, get?_evictCompleted, get?_apply hu, get?_apply h, get?_evictCompleted]
    refine Row.filter_next now fun hc => ?_
    rw [← Option.not_isSome_iff_eq_none, ← Snapshot.mem_ids]
    intro hid
    exact Bool.false_ne_true ((hlisted id hid).symm.trans hc)
  have hopen (id : String) : (t.evictCompleted.1.apply s now).1.isOpen id =
      (t.apply s now).1.isOpen id := by
    rw [isOpen_eq_isSome, hget, isOpen_eq_isSome]
  obtain ⟨htotals, hcycles⟩ := totals_apply t s now
  obtain ⟨htotals', hcycles'⟩ := totals_apply t.evictCompleted.1 s now
  refine ⟨ext_get? ?_ (htotals'.trans htotals.symm) (hcycles'.trans hcycles.symm) hget, houtcome⟩
  rw [order_evictCompleted, order_evictCompleted, order_apply hu, order_apply h, houtcome,
    funext hopen, List.filter_append, List.filter_append, order_evictCompleted, List.filter_filter]
  congr 1
  refine List.filter_congr fun id hid => ?_
  rw [Bool.and_eq_left_iff_imp]
  exact isOpen_of_isOpen_apply h s now hid

end Table

end TrafficWatch.Tracking
