import Mathlib.Data.List.Basic
import TrafficWatch.Tracking.Table

/-!
What one operation does to the row of one ID: a snapshot acts on each connection through the first
record that names it, and on no other one.
-/

namespace TrafficWatch.Wire

/-- The record that counts for a connection. -/
def Snapshot.report? (s : Snapshot) (id : String) : Option ConnectionRecord :=
  s.connections.find? (·.validId == some id)

theorem ConnectionRecord.ne_empty_of_validId {r : ConnectionRecord} {id : String}
    (h : r.validId = some id) : id ≠ "" := by
  obtain ⟨-, hid⟩ := Option.filter_eq_some_iff.mp h
  simpa using hid

end TrafficWatch.Wire

namespace TrafficWatch.Tracking

open Time Wire

/-- How an outcome may name a connection. -/
inductive Mention where
  | created
  | completed
  | reappeared
deriving DecidableEq, Repr

def Outcome.mentions (o : Outcome) (id : String) : List Mention :=
  .replicate (o.created.count id) .created ++ .replicate (o.completed.count id) .completed ++
    .replicate (o.reappeared.count id) .reappeared

theorem Outcome.mem_created_iff (o : Outcome) (id : String) :
    id ∈ o.created ↔ .created ∈ o.mentions id := by
  simp [mentions, List.mem_replicate, List.count_eq_zero]

/-- How a snapshot leads to mentions of a connection, from its report and its row before. -/
def Row.mentions (report : Option ConnectionRecord) (row : Option Row) : List Mention :=
  match report, row with
  | none, none => []
  | some _, none => [.created]
  | none, some row => if row.completed then [] else [.completed]
  | some _, some row => if row.completed then [.reappeared] else []

/-- The row of a connection after a snapshot, from its report in that snapshot. -/
def Row.next (id : String) (report : Option ConnectionRecord) (now : Instant) :
    Option Row → Option Row
  | none => report.map (.opened id · now)
  | some row =>
    if row.completed then some row
    else match report with
      | some r => some (row.observe r now)
      | none => some (row.close now)

namespace Table

/-- The order lists every row once, and rows stand under their own IDs. -/
structure Sound (t : Table) : Prop where
  nodup : t.order.Nodup
  mem_order : ∀ id, id ∈ t.order ↔ (t.get? id).isSome
  id_eq : ∀ id row, t.get? id = some row → row.id = id
  id_ne : ∀ id row, t.get? id = some row → id ≠ ""

theorem get?_empty (id : String) : empty.get? id = none := Std.ExtTreeMap.getElem?_empty

theorem sound_empty : empty.Sound where
  nodup := List.nodup_nil
  mem_order id := by rw [get?_empty]; simp [empty]
  id_eq id row h := by rw [get?_empty] at h; cases h
  id_ne id row h := by rw [get?_empty] at h; cases h

theorem get?_put (t : Table) (row : Row) (id : String) :
    (t.put row).get? id = if row.id = id then some row else t.get? id := by
  simp only [get?, put, Std.ExtTreeMap.getElem?_insert, Std.LawfulEqCmp.compare_eq_iff_eq]

theorem get?_put_order (t : Table) (row : Row) (order : List String) (id : String) :
    Table.get? { t.put row with order := order } id = if row.id = id then some row else t.get? id :=
  get?_put t row id

/-- Putting a row in, with its ID in the order if it is not there yet. -/
theorem Sound.insert {t : Table} (h : t.Sound) {row : Row} {order : List String}
    (hnodup : order.Nodup) (hmem : ∀ id, id ∈ order ↔ id ∈ t.order ∨ row.id = id)
    (hne : row.id ≠ "") : Sound { t.put row with order := order } where
  nodup := hnodup
  mem_order id := by
    rw [get?_put_order, hmem, h.mem_order]
    by_cases hid : row.id = id <;> simp [hid]
  id_eq id other ho := by
    rw [get?_put_order] at ho
    split at ho
    · cases ho; assumption
    · exact h.id_eq id other ho
  id_ne id other ho := by
    rw [get?_put_order] at ho
    split at ho
    · next hid => exact hid ▸ hne
    · exact h.id_ne id other ho

theorem Sound.replace {t : Table} (h : t.Sound) {old : Row} (row : Row)
    (hold : t.get? row.id = some old) :
    (t.put row).Sound := by
  have hm : row.id ∈ t.order := (h.mem_order _).mpr (by simp [hold])
  refine h.insert h.nodup (fun id => ?_) (h.id_ne _ _ hold)
  constructor
  · exact Or.inl
  · rintro (hid | rfl)
    · exact hid
    · exact hm

theorem Sound.append {t : Table} (h : t.Sound) (row : Row) (hnew : t.get? row.id = none)
    (hne : row.id ≠ "") : Sound { t.put row with order := t.order ++ [row.id] } := by
  have hm : row.id ∉ t.order := by simp [h.mem_order, hnew]
  refine h.insert ?_ (fun id => by simp [eq_comm]) hne
  exact List.nodup_append.mpr ⟨h.nodup, by simp, by rintro a ha b hb rfl; simp_all⟩

/-- What a pass holds of one connection: its row, whether it is listed, and how often the outcome
names it. -/
structure Entry where
  row : Option Row
  seen : Bool := false
  created : Nat := 0
  completed : Nat := 0
  reappeared : Nat := 0

def Pass.entry (p : Pass) (id : String) : Entry where
  row := p.table.get? id
  seen := p.seen.contains id
  created := p.outcome.created.count id
  completed := p.outcome.completed.count id
  reappeared := p.outcome.reappeared.count id

namespace Entry

def listed (e : Entry) (id : String) (r : ConnectionRecord) (now : Instant) : Entry :=
  if e.seen then e
  else match e.row with
    | none => { e with row := some (.opened id r now), seen := true, created := e.created + 1 }
    | some row =>
      if row.completed then { e with seen := true, reappeared := e.reappeared + 1 }
      else { e with row := some (row.observe r now), seen := true }

def missed (e : Entry) (now : Instant) : Entry :=
  if e.seen then e
  else match e.row with
    | none => e
    | some row =>
      if row.completed then e
      else { e with row := some (row.close now), completed := e.completed + 1 }

theorem listed_seen (e : Entry) (id : String) (r : ConnectionRecord) (now : Instant) :
    (e.listed id r now).seen = true := by
  unfold listed
  split
  · assumption
  · split
    · rfl
    · split <;> rfl

theorem listed_of_seen {e : Entry} (h : e.seen = true) (id : String) (r : ConnectionRecord)
    (now : Instant) : e.listed id r now = e := by
  simp [listed, h]

theorem missed_missed (e : Entry) (now : Instant) : (e.missed now).missed now = e.missed now := by
  unfold missed
  by_cases hs : e.seen
  · simp [hs]
  · cases hr : e.row with
    | none => simp [hs, hr]
    | some row => by_cases hc : row.completed <;> simp [hs, hr, hc, Row.close]

end Entry

theorem Pass.record_sound {p : Pass} (h : p.table.Sound) (now : Instant)
    (r : ConnectionRecord × Nat) : (p.record now r).table.Sound := by
  unfold Pass.record
  cases hv : r.1.validId with
  | none => exact h
  | some id =>
    have hne := ConnectionRecord.ne_empty_of_validId hv
    dsimp only
    split
    · exact h
    · cases hrow : p.table.get? id with
      | none => exact h.append (.opened id r.1 now) hrow hne
      | some row =>
        have hold : p.table.get? row.id = p.table.get? id := by rw [h.id_eq id row hrow]
        dsimp only
        split
        · exact h
        · exact h.replace (row.observe r.1 now) (hold.trans hrow)

theorem Pass.absent_sound {p : Pass} (h : p.table.Sound) (now : Instant) (id : String) :
    (p.absent now id).table.Sound := by
  unfold Pass.absent
  split
  · exact h
  · cases hrow : p.table.get? id with
    | none => exact h
    | some row =>
      have hold : p.table.get? row.id = p.table.get? id := by rw [h.id_eq id row hrow]
      dsimp only
      split
      · exact h
      · exact h.replace (row.close now) (hold.trans hrow)

theorem Pass.record_entry {p : Pass} (h : p.table.Sound) (now : Instant)
    (r : ConnectionRecord × Nat) (id : String) :
    (p.record now r).entry id =
      if r.1.validId = some id then (p.entry id).listed id r.1 now else p.entry id := by
  unfold Pass.record
  cases hv : r.1.validId with
  | none => simp [Pass.entry]
  | some other =>
    by_cases hid : other = id
    · subst hid
      by_cases hs : p.seen.contains other
      · simp [hs, Entry.listed, Pass.entry]
      · cases hrow : p.table.get? other with
        | none => simp [hs, hrow, Entry.listed, Pass.entry, get?_put_order, Row.opened]
        | some row =>
          have hr : (row.observe r.1 now).id = other := h.id_eq other row hrow
          by_cases hc : row.completed <;>
            simp [hs, hrow, hc, Entry.listed, Pass.entry, get?_put, hr]
    · by_cases hs : p.seen.contains other
      · simp [hs, hid]
      · cases hrow : p.table.get? other with
        | none =>
          simp [hs, hrow, hid, Pass.entry, get?_put_order, Row.opened, Std.TreeSet.contains_insert]
        | some row =>
          have hr : (row.observe r.1 now).id = other := h.id_eq other row hrow
          by_cases hc : row.completed <;>
            simp [hs, hrow, hc, hid, Pass.entry, get?_put, hr, Std.TreeSet.contains_insert]

theorem Pass.absent_entry {p : Pass} (h : p.table.Sound) (now : Instant) (other id : String) :
    (p.absent now other).entry id = if other = id then (p.entry id).missed now else p.entry id := by
  unfold Pass.absent
  by_cases hs : p.seen.contains other
  · by_cases hid : other = id
    · subst hid; simp [hs, Entry.missed, Pass.entry]
    · simp [hs, hid]
  · cases hrow : p.table.get? other with
    | none =>
      by_cases hid : other = id
      · subst hid; simp [hs, hrow, Entry.missed, Pass.entry]
      · simp [hs, hid]
    | some row =>
      have hr : (row.close now).id = other := h.id_eq other row hrow
      by_cases hc : row.completed <;> by_cases hid : other = id
      · subst hid; simp [hs, hrow, hc, Entry.missed, Pass.entry]
      · simp [hs, hc, hid]
      · subst hid; simp [hs, hrow, hc, Entry.missed, Pass.entry, get?_put, hr]
      · simp [hs, hc, hid, Pass.entry, get?_put, hr]

def Entry.reported (e : Entry) (id : String) (report : Option ConnectionRecord) (now : Instant) :
    Entry :=
  match report with
  | none => e
  | some r => e.listed id r now

/-- Records of an ID after the first one change nothing, as the ID has been seen by then. -/
theorem Pass.foldl_record_entry {p : Pass} (h : p.table.Sound) (now : Instant)
    (rs : List (ConnectionRecord × Nat)) (id : String) :
    (rs.foldl (Pass.record now) p).table.Sound ∧
      (rs.foldl (Pass.record now) p).entry id =
        (p.entry id).reported id ((rs.map (·.1)).find? (·.validId == some id)) now := by
  induction rs generalizing p with
  | nil => exact ⟨h, rfl⟩
  | cons r rs ih =>
    obtain ⟨hsound, hentry⟩ := ih (Pass.record_sound h now r)
    refine ⟨hsound, ?_⟩
    rw [List.foldl_cons, hentry, Pass.record_entry h, List.map_cons, List.find?_cons]
    by_cases hv : r.1.validId = some id
    · simp only [hv, ↓reduceIte, beq_self_eq_true]
      cases hf : (rs.map (·.1)).find? (·.validId == some id) with
      | none => rfl
      | some other => exact Entry.listed_of_seen (Entry.listed_seen _ id r.1 now) id other now
    · have hb : (r.1.validId == some id) = false := by simpa using hv
      simp only [hv, hb, ↓reduceIte]

theorem Pass.foldl_absent_entry {p : Pass} (h : p.table.Sound) (now : Instant)
    (ids : List String) (id : String) :
    (ids.foldl (Pass.absent now) p).table.Sound ∧
      (ids.foldl (Pass.absent now) p).entry id =
        if id ∈ ids then (p.entry id).missed now else p.entry id := by
  induction ids generalizing p with
  | nil => exact ⟨h, by simp⟩
  | cons other ids ih =>
    obtain ⟨hsound, hentry⟩ := ih (Pass.absent_sound h now other)
    refine ⟨hsound, ?_⟩
    rw [List.foldl_cons, hentry, Pass.absent_entry h]
    by_cases hid : other = id
    · subst hid; simp [Entry.missed_missed]
    · simp [hid, Ne.symm hid]

/-- The pass that a snapshot makes over a table. -/
def pass (t : Table) (s : Snapshot) (now : Instant) : Pass :=
  let listed := s.connections.zipIdx.foldl (Pass.record now) (Pass.begin t s)
  listed.table.order.foldl (Pass.absent now) listed

theorem apply_eq_pass (t : Table) (s : Snapshot) (now : Instant) :
    t.apply s now = ((t.pass s now).table, (t.pass s now).outcome) := rfl

theorem begin_entry (t : Table) (s : Snapshot) (id : String) :
    (Pass.begin t s).entry id = { row := t.get? id } := by
  simp [Pass.entry, Pass.begin, get?]

theorem Sound.begin {t : Table} (h : t.Sound) (s : Snapshot) : (Pass.begin t s).table.Sound :=
  ⟨h.nodup, h.mem_order, h.id_eq, h.id_ne⟩

theorem pass_entry {t : Table} (h : t.Sound) (s : Snapshot) (now : Instant) (id : String) :
    (t.pass s now).table.Sound ∧
      (t.pass s now).entry id =
        (({ row := t.get? id } : Entry).reported id (s.report? id) now).missed now := by
  obtain ⟨hs, he⟩ := Pass.foldl_record_entry (h.begin s) now s.connections.zipIdx id
  rw [List.zipIdx_map_fst, begin_entry] at he
  obtain ⟨hs', he'⟩ := Pass.foldl_absent_entry hs now
    (s.connections.zipIdx.foldl (Pass.record now) (Pass.begin t s)).table.order id
  refine ⟨hs', he'.trans ?_⟩
  rw [he]
  split
  · rfl
  · next hm =>
    -- an ID outside the order has no row to close
    rw [hs.mem_order, Option.not_isSome_iff_eq_none] at hm
    have hr := (congrArg Entry.row he).symm.trans hm
    unfold Entry.missed
    split
    · rfl
    · simp only [Snapshot.report?, hr]

theorem get?_apply {t : Table} (h : t.Sound) (s : Snapshot) (now : Instant) (id : String) :
    (t.apply s now).1.get? id = Row.next id (s.report? id) now (t.get? id) := by
  have he := congrArg Entry.row (pass_entry h s now id).2
  rw [apply_eq_pass]
  refine he.trans ?_
  cases hr : s.report? id with
  | none => cases hrow : t.get? id with
    | none => rfl
    | some row => by_cases hc : row.completed <;> simp [Entry.reported, Entry.missed, Row.next, hc]
  | some r => cases hrow : t.get? id with
    | none => rfl
    | some row =>
      by_cases hc : row.completed <;>
        simp [Entry.reported, Entry.listed, Entry.missed, Row.next, hc]

theorem mentions_apply {t : Table} (h : t.Sound) (s : Snapshot) (now : Instant) (id : String) :
    (t.apply s now).2.mentions id = Row.mentions (s.report? id) (t.get? id) := by
  have he := (pass_entry h s now id).2
  have hm : (t.apply s now).2.mentions id =
      .replicate ((t.pass s now).entry id).created .created ++
        .replicate ((t.pass s now).entry id).completed .completed ++
        .replicate ((t.pass s now).entry id).reappeared .reappeared := rfl
  rw [hm, he]
  cases hr : s.report? id with
  | none => cases hrow : t.get? id with
    | none => rfl
    | some row =>
      by_cases hc : row.completed <;> simp [Entry.reported, Entry.missed, Row.mentions, hc]
  | some r => cases hrow : t.get? id with
    | none => rfl
    | some row =>
      by_cases hc : row.completed <;>
        simp [Entry.reported, Entry.listed, Entry.missed, Row.mentions, hc]

theorem get?_evict (t : Table) (other id : String) :
    (t.evict other).1.get? id = if other = id then none else t.get? id := by
  unfold evict
  cases hrow : t.get? other with
  | none =>
    by_cases hid : other = id
    · subst hid; simpa using hrow
    · simp [hid]
  | some row =>
    simp only [get?, Std.ExtTreeMap.getElem?_erase, Std.LawfulEqCmp.compare_eq_iff_eq]

theorem get?_evictCompleted (t : Table) (id : String) :
    t.evictCompleted.1.get? id = (t.get? id).filter (! ·.completed) :=
  Std.ExtTreeMap.getElem?_filter'

/-- Rows may leave, as long as they leave the order too. -/
theorem Sound.filter {t t' : Table} (h : t.Sound) (p : String → Bool)
    (horder : t'.order = t.order.filter p)
    (hrow : ∀ id row, t'.get? id = some row → t.get? id = some row)
    (hkept : ∀ id, (t'.get? id).isSome ↔ p id ∧ (t.get? id).isSome) : t'.Sound where
  nodup := horder ▸ h.nodup.filter p
  mem_order id := by rw [horder, List.mem_filter, h.mem_order, hkept, and_comm]
  id_eq id row ho := h.id_eq id row (hrow id row ho)
  id_ne id row ho := h.id_ne id row (hrow id row ho)

theorem Sound.apply {t : Table} (h : t.Sound) (s : Snapshot) (now : Instant) :
    (t.apply s now).1.Sound := by
  rw [apply_eq_pass]
  exact (pass_entry h s now "").1

theorem Sound.evict {t : Table} (h : t.Sound) (id : String) : (t.evict id).1.Sound := by
  cases hrow : t.get? id with
  | none => simpa [evict_absent t id hrow] using h
  | some row =>
    refine h.filter (· != id) (by simp [Table.evict, hrow]) (fun other row' ho => ?_) (fun other => ?_)
    · rw [get?_evict] at ho
      split at ho
      · cases ho
      · exact ho
    · rw [get?_evict]
      by_cases hid : id = other
      · simp [hid]
      · simp [hid, Ne.symm hid]

theorem Sound.evictCompleted {t : Table} (h : t.Sound) : t.evictCompleted.1.Sound := by
  refine h.filter (fun id => (t.evictCompleted.1.get? id).isSome) ?_ (fun id row ho => ?_)
    (fun id => ?_)
  · refine List.filter_congr fun id _ => ?_
    exact Std.ExtTreeMap.contains_eq_isSome_getElem?
  · rw [get?_evictCompleted] at ho
    exact (Option.filter_eq_some_iff.mp ho).1
  · rw [get?_evictCompleted]
    cases t.get? id <;> simp

theorem Sound.step {t : Table} (h : t.Sound) (op : Op) : (t.step op).1.Sound := by
  cases op with
  | apply s now => exact h.apply s now
  | evict id => exact h.evict id
  | evictCompleted => exact h.evictCompleted

theorem Sound.run {t : Table} (h : t.Sound) (ops : List Op) : (t.run ops).1.Sound := by
  induction ops generalizing t with
  | nil => exact h
  | cons op ops ih => exact ih (h.step op)

theorem run_append (t : Table) (ops more : List Op) :
    t.run (ops ++ more) =
      (((t.run ops).1.run more).1, (t.run ops).2 ++ ((t.run ops).1.run more).2) := by
  induction ops generalizing t with
  | nil => rfl
  | cons op ops ih => simp [Table.run, ih]

end Table

/-- The row of a connection after an operation. -/
def Row.after (id : String) (op : Table.Op) (row : Option Row) : Option Row :=
  match op with
  | .apply s now => Row.next id (s.report? id) now row
  | .evict other => if other = id then none else row
  | .evictCompleted => row.filter (! ·.completed)

/-- The row of a connection after some operations. -/
def Row.along (id : String) (ops : List Table.Op) (row : Option Row) : Option Row :=
  ops.foldl (fun row op => Row.after id op row) row

theorem Row.along_append (id : String) (ops more : List Table.Op) (row : Option Row) :
    Row.along id (ops ++ more) row = Row.along id more (Row.along id ops row) :=
  List.foldl_append

namespace Table

theorem get?_step {t : Table} (h : t.Sound) (op : Op) (id : String) :
    (t.step op).1.get? id = Row.after id op (t.get? id) := by
  cases op with
  | apply s now => exact get?_apply h s now id
  | evict other => exact get?_evict t other id
  | evictCompleted => exact get?_evictCompleted t id

/-- Connections have no influence on each other's rows. -/
theorem get?_run {t : Table} (h : t.Sound) (ops : List Op) (id : String) :
    (t.run ops).1.get? id = Row.along id ops (t.get? id) := by
  induction ops generalizing t with
  | nil => rfl
  | cons op ops ih =>
    have hs := ih (h.step op)
    rwa [get?_step h op id] at hs

end Table

end TrafficWatch.Tracking
