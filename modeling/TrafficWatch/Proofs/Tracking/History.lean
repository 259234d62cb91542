import Mathlib.Data.List.Induction
import TrafficWatch.Proofs.Tracking.Lookup

/-!
Rows as functions of what the snapshots said. The row of a connection depends on the snapshots
since its latest creation only: while all of them list it, the row is open and follows the first
records with its ID; from the first one that does not, the row is closed.
-/

namespace TrafficWatch.Tracking

open Time Wire

/-- What one snapshot says of a connection. -/
structure Sighting where
  time : Instant
  record : Option ConnectionRecord

structure Report where
  time : Instant
  record : ConnectionRecord

def Report.sighting (r : Report) : Sighting := ⟨r.time, some r.record⟩

/-- What the snapshots among some operations say of a connection, in turn. -/
def Table.sightings (id : String) (ops : List Table.Op) : List Sighting :=
  ops.filterMap fun
    | .apply s now => some ⟨now, s.report? id⟩
    | _ => none

/-- The last text that is not empty, if there is one. -/
def lastText (texts : List String) : String := (texts.filter (! ·.isEmpty)).getLastD ""

/-- Whole microseconds from one time to another, or 0 if their count leaves 64 signed bits. -/
def wholeMicroseconds (before after : Instant) : Int :=
  let n := Int.tdiv (after.since before) 1000
  if Int64.minValue.toInt ≤ n ∧ n ≤ Int64.maxValue.toInt then n else 0

/-- The growth of a counter over a time, in units a second; none over no time or a negative one. -/
def throughput (before after : UInt64) (microseconds : Int) : Float :=
  if microseconds ≤ 0 then 0
  else (UInt64.ofNat (after.toNat - before.toNat)).toFloat /
    ((UInt64.ofNat microseconds.toNat).toFloat / 1000000)

namespace Row

/-- The row that reports of an open connection lead to. -/
def ofReports (id : String) (first : Report) (rest : List Report) : Row :=
  let all := first :: rest
  let last := rest.getLastD first
  let previous := all.dropLast.getLastD first
  let microseconds := wholeMicroseconds previous.time last.time
  { id := id
    metadata := {
      network := lastText (all.map (·.record.metadata.network))
      kind := lastText (all.map (·.record.metadata.kind))
      client := lastText (all.map (·.record.metadata.client))
      source := lastText (all.map (·.record.metadata.source))
      target := lastText (all.map (·.record.metadata.target)) }
    start := all.findSome? (·.record.start)
    counters := last.record.counters
    previous := previous.record.counters
    speed :=
      if rest.isEmpty then {}
      else {
        upload := throughput previous.record.counters.upload last.record.counters.upload microseconds
        download :=
          throughput previous.record.counters.download last.record.counters.download microseconds }
    completed := false
    firstSeen := first.time
    lastSeen := last.time
    closedAt := none }

end Row

theorem lastText_append (head : String) (texts : List String) (text : String) :
    lastText (head :: (texts ++ [text])) = overlay (lastText (head :: texts)) text := by
  rw [← List.cons_append]
  unfold lastText overlay
  by_cases h : text.isEmpty <;> simp only [List.filter_append, h] <;> simp [h]

theorem lastText_singleton (text : String) : lastText [text] = text := by
  by_cases h : text = "" <;> simp [lastText, h]

theorem growth_eq (before after : UInt64) :
    growth before after = UInt64.ofNat (after.toNat - before.toNat) := by
  unfold growth
  apply UInt64.toNat_inj.mp
  have hb := before.toNat_lt
  have ha := after.toNat_lt
  split
  · next h =>
    have hlt : after.toNat - before.toNat < UInt64.size := by simp only [UInt64.size]; omega
    rw [UInt64.toNat_sub_of_le _ _ h, UInt64.toNat_ofNat_of_lt' hlt]
  · next h =>
    have hlt : after.toNat < before.toNat := UInt64.lt_iff_toNat_lt.mp (UInt64.not_le.mp h)
    have hz : after.toNat - before.toNat = 0 := by omega
    simp [hz]

theorem rate_eq_throughput (before after : UInt64) (microseconds : Int) :
    rate before after microseconds = throughput before after microseconds := by
  unfold rate throughput
  rw [growth_eq]
  by_cases h : 0 < microseconds
  · simp [h, Int.not_le.mpr h]
  · simp [h, Int.not_lt.mp h]

theorem microseconds?_getD (before after : Instant) :
    (after.since before).microseconds?.getD 0 = wholeMicroseconds before after := by
  have hmin : Int64.minValue.toInt = -9223372036854775808 := rfl
  have hmax : Int64.maxValue.toInt = 9223372036854775807 := rfl
  simp only [Span.microseconds?, wholeMicroseconds, hmin, hmax]
  split <;> rfl

theorem Row.ofReports_nil (id : String) (first : Report) :
    Row.ofReports id first [] = Row.opened id first.record first.time := by
  simp [ofReports, opened, lastText_singleton]

theorem Row.ofReports_append (id : String) (first : Report) (rest : List Report) (r : Report) :
    Row.ofReports id first (rest ++ [r]) = (Row.ofReports id first rest).observe r.record r.time := by
  have hp : (first :: (rest ++ [r])).dropLast.getLastD first = rest.getLastD first := by
    rw [← List.cons_append, List.dropLast_concat, List.getLastD_cons]
  have hl : (rest ++ [r]).getLastD first = r := List.getLastD_concat ..
  simp only [ofReports, observe, hp, hl, Speed.between, rate_eq_throughput, microseconds?_getD]
  have hs : (first :: (rest ++ [r])).findSome? (·.record.start) =
      ((first :: rest).findSome? (·.record.start)).or r.record.start := by
    rw [← List.cons_append, List.findSome?_append]
    simp
  rw [hs]
  simp [lastText_append, Metadata.merge]

namespace Row

/-- The row after some snapshots, if nothing evicts it in between. -/
def life (id : String) (xs : List Sighting) (row : Option Row) : Option Row :=
  xs.foldl (fun row x => Row.next id x.record x.time row) row

/-- No operation takes the row out of the table. -/
def Kept (id : String) : List Table.Op → Option Row → Prop
  | [], _ => True
  | op :: ops, row => (row.isSome → (Row.after id op row).isSome) ∧ Kept id ops (Row.after id op row)

theorem kept_append (id : String) (ops more : List Table.Op) (row : Option Row) :
    Kept id (ops ++ more) row ↔ Kept id ops row ∧ Kept id more (Row.along id ops row) := by
  induction ops generalizing row with
  | nil => simp [Kept, along]
  | cons op ops ih => simp only [List.cons_append, Kept, ih, and_assoc]; rfl

/-- An eviction that does not take the row away leaves it as it is. -/
theorem after_eq_self {id : String} {op : Table.Op} {row : Option Row}
    (hop : ∀ s now, op ≠ .apply s now) (h : row.isSome → (Row.after id op row).isSome) :
    Row.after id op row = row := by
  cases row with
  | none => cases op <;> simp_all [Row.after]
  | some row =>
    cases op with
    | apply s now => exact absurd rfl (hop s now)
    | evict other => by_cases hid : other = id <;> simp_all [Row.after]
    | evictCompleted => by_cases hc : row.completed <;> simp_all [Row.after]

theorem along_eq_life {id : String} {ops : List Table.Op} {row : Option Row}
    (h : Kept id ops row) : Row.along id ops row = life id (Table.sightings id ops) row := by
  induction ops generalizing row with
  | nil => rfl
  | cons op ops ih =>
    obtain ⟨hop, hops⟩ := h
    have ht := ih hops
    cases op with
    | apply s now => exact ht
    | evict other | evictCompleted =>
      have he := after_eq_self (by simp) hop
      rw [he] at ht
      exact (congrArg (Row.along id ops) he).trans ht

theorem next_isSome (id : String) (report : Option ConnectionRecord) (now : Instant)
    {row : Option Row} (h : row.isSome) : (Row.next id report now row).isSome := by
  obtain ⟨row, rfl⟩ := Option.isSome_iff_exists.mp h
  by_cases hc : row.completed <;> cases report <;> simp [Row.next, hc]

theorem life_of_completed {id : String} {row : Row} (h : row.completed = true)
    (xs : List Sighting) : life id xs (some row) = some row := by
  induction xs with
  | nil => rfl
  | cons x xs ih =>
    have hn : Row.next id x.record x.time (some row) = some row := by simp [Row.next, h]
    exact (congrArg (life id xs) hn).trans ih

/-- An open row goes on with the reports until the first snapshot that does not list it. -/
theorem life_ofReports (id : String) (first : Report) (rest : List Report) (xs : List Sighting) :
    (∃ more, xs = more.map Report.sighting ∧
      life id xs (some (ofReports id first rest)) = some (ofReports id first (rest ++ more))) ∨
    ∃ more time later, xs = more.map Report.sighting ++ ⟨time, none⟩ :: later ∧
      life id xs (some (ofReports id first rest)) =
        some ((ofReports id first (rest ++ more)).close time) := by
  induction xs generalizing rest with
  | nil => exact Or.inl ⟨[], rfl, by simp [life]⟩
  | cons x xs ih =>
    obtain ⟨time, record⟩ := x
    cases record with
    | none =>
      refine Or.inr ⟨[], time, xs, rfl, ?_⟩
      rw [List.append_nil]
      exact life_of_completed rfl xs
    | some r =>
      have hn : life id (⟨time, some r⟩ :: xs) (some (ofReports id first rest)) =
          life id xs (some (ofReports id first (rest ++ [⟨time, r⟩]))) := by
        rw [ofReports_append]
        rfl
      rw [hn]
      rcases ih (rest ++ [⟨time, r⟩]) with ⟨more, rfl, hl⟩ | ⟨more, time', later, rfl, hl⟩
      · exact Or.inl ⟨⟨time, r⟩ :: more, rfl, by simpa using hl⟩
      · exact Or.inr ⟨⟨time, r⟩ :: more, time', later, rfl, by simpa using hl⟩

/-- Where a row comes from: there is a last snapshot that found no row and listed the connection. -/
theorem exists_creation {id : String} {ops : List Table.Op} {row : Row}
    (h : Row.along id ops none = some row) :
    ∃ before s now r after, ops = before ++ .apply s now :: after ∧
      Row.along id before none = none ∧ s.report? id = some r ∧
      Kept id after (some (opened id r now)) := by
  induction ops using List.reverseRecOn generalizing row with
  | nil => cases h
  | append_singleton ops op ih =>
    rw [along_append] at h
    cases hrow : Row.along id ops none with
    | none =>
      rw [hrow] at h
      cases op with
      | evict other => by_cases hid : other = id <;> simp [along, Row.after, hid] at h
      | evictCompleted => cases h
      | apply s now =>
        obtain ⟨r, hr, -⟩ := Option.map_eq_some_iff.mp h
        exact ⟨ops, s, now, r, [], rfl, hrow, hr, trivial⟩
    | some row' =>
      obtain ⟨before, s, now, r, after, rfl, hb, hr, hk⟩ := ih hrow
      have hs : Row.along id (before ++ .apply s now :: after) none =
          Row.along id after (some (opened id r now)) := by
        rw [along_append, hb]
        simp [along, Row.after, Row.next, hr]
      refine ⟨before, s, now, r, after ++ [op], by simp, hb, hr, (kept_append ..).mpr ⟨hk, ?_⟩⟩
      rw [← hs]
      exact ⟨fun _ => Option.isSome_of_eq_some h, trivial⟩

/-- The history of a row since its creation: reports as long as it is open, then a snapshot that
closed it. -/
theorem exists_history {id : String} {ops : List Table.Op} {row : Row}
    (h : Row.along id ops none = some row) :
    ∃ before s now after first rest, ops = before ++ .apply s now :: after ∧
      Row.along id before none = none ∧ (s.report? id).isSome ∧
      Kept id after (Row.after id (.apply s now) none) ∧
      ((Table.sightings id (.apply s now :: after) = (first :: rest).map Report.sighting ∧
        row = ofReports id first rest) ∨
      ∃ time later, Table.sightings id (.apply s now :: after) =
          (first :: rest).map Report.sighting ++ ⟨time, none⟩ :: later ∧
        row = (ofReports id first rest).close time) := by
  obtain ⟨before, s, now, r, after, rfl, hb, hr, hk⟩ := exists_creation h
  have ha : Row.after id (.apply s now) none = some (opened id r now) := by
    simp [Row.after, Row.next, hr]
  have hx : Table.sightings id (.apply s now :: after) =
      ⟨now, some r⟩ :: Table.sightings id after := by
    simp [Table.sightings, hr]
  have hl : life id (Table.sightings id after) (some (ofReports id ⟨now, r⟩ [])) = some row := by
    rw [ofReports_nil, ← along_eq_life hk, ← ha, ← hb]
    exact (along_append ..).symm.trans h
  refine ⟨before, s, now, after, ⟨now, r⟩, ?_⟩
  rcases life_ofReports id ⟨now, r⟩ [] (Table.sightings id after) with
    ⟨more, hm, hrow⟩ | ⟨more, time, later, hm, hrow⟩
  · refine ⟨more, rfl, hb, by simp [hr], ha ▸ hk, Or.inl ⟨by rw [hx, hm]; rfl, ?_⟩⟩
    exact Option.some.inj (hl.symm.trans hrow)
  · refine ⟨more, rfl, hb, by simp [hr], ha ▸ hk, Or.inr ⟨time, later, by rw [hx, hm]; rfl, ?_⟩⟩
    exact Option.some.inj (hl.symm.trans hrow)

end Row

namespace Table

/-- The snapshot of a run that made a row, with nothing after it making the row again. -/
structure LatestCreation (ops : List Op) (id : String) (before : List Op) (s : Snapshot)
    (now : Instant) (after : List Op) : Prop where
  split : ops = before ++ .apply s now :: after
  created : id ∈ ((empty.run before).1.apply s now).2.created
  last : ∀ o, .applied o ∈ (((empty.run before).1.apply s now).1.run after).2 → id ∉ o.created

theorem mem_created_apply {t : Table} (h : t.Sound) (s : Snapshot) (now : Instant) (id : String) :
    id ∈ (t.apply s now).2.created ↔ t.get? id = none ∧ (s.report? id).isSome := by
  rw [Outcome.mem_created_iff, mentions_apply h]
  cases hr : s.report? id <;> cases hrow : t.get? id <;> simp [Row.mentions]

theorem not_created_of_kept {t : Table} (h : t.Sound) {id : String} {ops : List Op}
    (hrow : (t.get? id).isSome) (hk : Row.Kept id ops (t.get? id)) (o : Outcome)
    (ho : .applied o ∈ (t.run ops).2) : id ∉ o.created := by
  induction ops generalizing t with
  | nil => cases ho
  | cons op ops ih =>
    obtain ⟨hop, hops⟩ := hk
    rw [← get?_step h] at hop hops
    rcases List.mem_cons.mp ho with heq | ho
    · cases op with
      | apply s now =>
        obtain rfl : o = (t.apply s now).2 := Result.applied.inj heq
        rw [mem_created_apply h]
        rintro ⟨hn, -⟩
        rw [hn] at hrow
        cases hrow
      | evict id | evictCompleted => cases heq
    · exact ih (h.step op) (hop hrow) hops ho

theorem sound_run_empty (ops : List Op) : (empty.run ops).1.Sound := sound_empty.run ops

theorem get?_run_empty (ops : List Op) (id : String) :
    (empty.run ops).1.get? id = Row.along id ops none := by
  rw [get?_run sound_empty, get?_empty]

theorem latestCreation_of_kept {before after : List Op} {s : Snapshot} {now : Instant} {id : String}
    (hb : Row.along id before none = none) (hr : (s.report? id).isSome)
    (hk : Row.Kept id after (Row.after id (.apply s now) none)) :
    LatestCreation (before ++ .apply s now :: after) id before s now after where
  split := rfl
  created := (mem_created_apply (sound_run_empty before) s now id).mpr
    ⟨(get?_run_empty before id).trans hb, hr⟩
  last := by
    have hg : ((empty.run before).1.apply s now).1.get? id = Row.after id (.apply s now) none := by
      rw [get?_apply (sound_run_empty before), get?_run_empty, hb]
      rfl
    refine not_created_of_kept ((sound_run_empty before).apply s now) ?_ (hg ▸ hk)
    rw [hg]
    simpa [Row.after, Row.next] using hr

theorem get?_of_mem_rows {t : Table} (h : t.Sound) {row : Row} (hrow : row ∈ t.rows) :
    t.get? row.id = some row := by
  obtain ⟨id, -, hid⟩ := List.mem_filterMap.mp hrow
  rwa [h.id_eq id row hid]

theorem mem_rows_iff {t : Table} (h : t.Sound) {row : Row} :
    row ∈ t.rows ↔ t.get? row.id = some row := by
  constructor
  · exact get?_of_mem_rows h
  · intro hrow
    have hid : row.id ∈ t.order := (h.mem_order row.id).mpr (Option.isSome_of_eq_some hrow)
    exact List.mem_filterMap.mpr ⟨row.id, hid, hrow⟩

/-- Every snapshot since the creation of an open row lists the connection, and the row is what the
first record of each of them makes it. -/
theorem open_row_eq_ofReports (ops : List Op) (row : Row) (hrow : row ∈ (empty.run ops).1.rows)
    (hopen : row.completed = false) :
    ∃ before s now after first rest, LatestCreation ops row.id before s now after ∧
      sightings row.id (.apply s now :: after) = (first :: rest).map Report.sighting ∧
      row = Row.ofReports row.id first rest := by
  have hg := get?_of_mem_rows (sound_run_empty ops) hrow
  rw [get?_run_empty] at hg
  obtain ⟨before, s, now, after, first, rest, rfl, hb, hr, hk, hend⟩ := Row.exists_history hg
  refine ⟨before, s, now, after, first, rest, latestCreation_of_kept hb hr hk, ?_⟩
  rcases hend with hend | ⟨time, later, -, hclosed⟩
  · exact hend
  · rw [hclosed] at hopen
    cases hopen

/-- A connection listed twice at first, reported again after an eviction of closed rows. -/
def listedTwice : List Op := [
  .apply { connections := [{ id := some "a", counters := ⟨100, 7⟩ }, { id := some "a" }, {}] } ⟨0, 0, 0⟩,
  .evictCompleted,
  .apply { connections := [{ id := some "a", counters := ⟨1100, 5⟩ }] } ⟨0, 2, 0⟩]

theorem open_row_of_listedTwice :
    ∃ row ∈ (empty.run listedTwice).1.rows, row.completed = false ∧ row.counters = ⟨1100, 5⟩ ∧
      ∃ before s now after first rest, LatestCreation listedTwice row.id before s now after ∧
        sightings row.id (.apply s now :: after) = (first :: rest).map Report.sighting ∧
        row = Row.ofReports row.id first rest := by
  have hlast : ((empty.run listedTwice).1.get? "a").map (fun row => (row.completed, row.counters)) =
      some (false, ⟨1100, 5⟩) := by decide +kernel
  obtain ⟨row, hget, hrow⟩ := Option.map_eq_some_iff.mp hlast
  obtain ⟨hopen, hc⟩ := Prod.mk.inj hrow
  have hm : row ∈ (empty.run listedTwice).1.rows :=
    List.mem_filterMap.mpr ⟨"a", by decide +kernel, hget⟩
  exact ⟨row, hm, hopen, hc, open_row_eq_ofReports listedTwice row hm hopen⟩

end Table

end TrafficWatch.Tracking
