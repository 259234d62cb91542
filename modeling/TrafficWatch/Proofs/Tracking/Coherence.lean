import Mathlib.Data.List.Nodup
import TrafficWatch.Proofs.Tracking.Fates
import TrafficWatch.Proofs.Tracking.Retention

/-!
The rows by ID and the order of the IDs are one table. Each is changed on its own, yet between any
two operations they name the same connections, so nothing is lost where a row is looked up through
the order, and a search among the rows that are shown finds what the table has under the ID.
-/

namespace TrafficWatch.Tracking

open Files

namespace Table

/-- The two parts of a table say the same. -/
structure Coherent (t : Table) : Prop where
  nodup : t.order.Nodup
  keys : t.order.Perm t.byId.keys
  ids : ∀ id row, t.byId[id]? = some row → row.id = id ∧ id ≠ ""
  /-- No ID of the order is passed over. -/
  complete : t.rows.map some = t.order.map t.get?
  once : t.rows.Nodup
  mem_rows : ∀ row, row ∈ t.rows ↔ t.byId[row.id]? = some row
  length : t.length = t.rows.length ∧ t.length = t.byId.size
  isEmpty : t.isEmpty = t.rows.isEmpty
  find? : ∀ (v : View) (id : String), { v with rows := t.rows }.find? id = t.get? id

variable {t : Table}

theorem order_perm_keys (h : t.Sound) : t.order.Perm t.byId.keys := by
  rw [List.perm_ext_iff_of_nodup h.nodup Std.ExtTreeMap.nodup_keys]
  intro id
  rw [h.mem_order, Std.ExtTreeMap.mem_keys, Std.ExtTreeMap.mem_iff_isSome_getElem?]
  rfl

theorem map_some_rows (h : t.Sound) : t.rows.map some = t.order.map t.get? := by
  rw [← map_id_rows h, List.map_map]
  apply List.map_congr_left
  intro row hrow
  exact (get?_of_mem_rows h hrow).symm

theorem nodup_rows (h : t.Sound) : t.rows.Nodup := by
  apply List.Nodup.of_map (·.id)
  rw [map_id_rows h]
  exact h.nodup

/-- No other row has the ID of the first one that is found. -/
theorem find?_rows (h : t.Sound) (id : String) : t.rows.find? (·.id == id) = t.get? id := by
  cases hfound : t.rows.find? (·.id == id) with
  | some row =>
    have hid : row.id = id := by simpa using List.find?_some hfound
    rw [← hid, get?_of_mem_rows h (List.mem_of_find?_eq_some hfound)]
  | none =>
    cases hrow : t.get? id with
    | none => rfl
    | some row =>
      have hid := h.id_eq id row hrow
      have hmem : row ∈ t.rows := (mem_rows_iff h).mpr (hid ▸ hrow)
      exact absurd (beq_iff_eq.mpr hid) (List.find?_eq_none.mp hfound row hmem)

theorem coherent (h : t.Sound) : t.Coherent where
  nodup := h.nodup
  keys := order_perm_keys h
  ids id row hrow := ⟨h.id_eq id row hrow, h.id_ne id row hrow⟩
  complete := map_some_rows h
  once := nodup_rows h
  mem_rows _ := mem_rows_iff h
  length := by
    constructor
    · rw [length, ← map_id_rows h, List.length_map]
    · rw [length, (order_perm_keys h).length_eq, Std.ExtTreeMap.length_keys]
  isEmpty := by rw [isEmpty, ← map_id_rows h, List.isEmpty_map]
  find? _ id := find?_rows h id

end Table

namespace Store

/-- What an operation of the store does to its table is done by operations of the table. -/
theorem exists_run_step {s : Store} (h : s.Tidy) (d : Disk) (op : Op) :
    ∃ ops, (step d s op).1.2.table = (s.table.run ops).1 := by
  have hretention (keep : Bool) :
      ∃ ops, (setRetention d s keep).2.table = (s.table.run ops).1 := by
    cases keep with
    | true => exact ⟨[], rfl⟩
    | false => exact ⟨[.evictCompleted], rfl⟩
  cases op with
  | feed snapshot now ms =>
    cases hkeep : s.keepClosed with
    | true => exact ⟨[.apply snapshot now], feed_table_of_keep hkeep snapshot now ms⟩
    | false => exact ⟨[.apply snapshot now, .evictCompleted], h.feed_table hkeep snapshot now ms⟩
  | toggle => exact hretention (! s.keepClosed)
  | setRetention keep => exact hretention keep
  | clearClosed => exact ⟨[.evictCompleted], clearClosed_table h.sound⟩
  | restart => exact ⟨[], rfl⟩

theorem exists_run_table {s : Store} (h : s.Tidy) (d : Disk) (ops : List Op) :
    ∃ done, (run d s ops).2.table = (s.table.run done).1 := by
  induction ops generalizing d s with
  | nil => exact ⟨[], rfl⟩
  | cons op ops ih =>
    obtain ⟨done, hdone⟩ := exists_run_step h d op
    obtain ⟨more, hmore⟩ := ih (h.step d op) (step d s op).1.1
    refine ⟨done ++ more, ?_⟩
    rw [Table.run_append, ← hdone]
    exact hmore

/-- What is found in the published view is what the table holds. -/
theorem Tidy.find? {s : Store} (h : s.Tidy) (id : String) : s.find? id = s.table.get? id := by
  rw [Store.find?, h.shown]
  exact Table.find?_rows h.sound id

end Store

/-- Whatever has been done to a table, its map and its order agree. So they do in a store, whose
table is only changed by such operations, and each of its rows is found in the view by its ID. -/
theorem coherent_throughout :
    (∀ ops, (Table.empty.run ops).1.Coherent) ∧
    ∀ (d : Disk) (settings : SettingsStore) (ops : List Store.Op),
      (∃ done, (Store.run d (Store.create settings) ops).2.table = (Table.empty.run done).1) ∧
      (Store.run d (Store.create settings) ops).2.view.rows =
        (Store.run d (Store.create settings) ops).2.table.rows ∧
      ∀ id, (Store.run d (Store.create settings) ops).2.find? id =
        (Store.run d (Store.create settings) ops).2.table.get? id := by
  refine ⟨fun ops => Table.coherent (Table.sound_run_empty ops), fun d settings ops => ?_⟩
  have htidy := (Store.tidy_create settings).run d ops
  refine ⟨Store.exists_run_table (Store.tidy_create settings) d ops, ?_, htidy.find?⟩
  rw [htidy.shown]
  rfl

end TrafficWatch.Tracking
