import Mathlib.Data.List.Induction
import TrafficWatch.Proofs.Tracking.Lookup

/-!
What a snapshot changes, as lists. The outcome names connections in the order of the snapshot or of
the table, and the order of the table goes on with the connections that were created.
-/

namespace TrafficWatch.Wire

/-- The IDs of some records, each where it comes first. -/
def listedIds (rs : List ConnectionRecord) : List String := (rs.filterMap (·.validId)).eraseDups

def Snapshot.ids (s : Snapshot) : List String := listedIds s.connections

variable {rs : List ConnectionRecord} {r : ConnectionRecord} {id : String}

theorem mem_listedIds : id ∈ listedIds rs ↔ (rs.find? (·.validId == some id)).isSome := by
  simp [listedIds, List.mem_eraseDups]

theorem Snapshot.mem_ids (s : Snapshot) (id : String) : id ∈ s.ids ↔ (s.report? id).isSome :=
  mem_listedIds

theorem listedIds_concat_of_none (hr : r.validId = none) : listedIds (rs ++ [r]) = listedIds rs := by
  simp [listedIds, hr]

theorem listedIds_concat (hr : r.validId = some id) :
    listedIds (rs ++ [r]) = listedIds rs ++ ([id].removeAll (rs.filterMap (·.validId))).eraseDups := by
  have hm : (rs ++ [r]).filterMap (·.validId) = rs.filterMap (·.validId) ++ [id] := by simp [hr]
  rw [listedIds, hm, List.eraseDups_append, listedIds]

theorem listedIds_concat_of_mem (hr : r.validId = some id) (hid : id ∈ listedIds rs) :
    listedIds (rs ++ [r]) = listedIds rs := by
  have hm : id ∈ rs.filterMap (·.validId) := List.mem_eraseDups.mp hid
  have hn : [id].removeAll (rs.filterMap (·.validId)) = [] := by
    simpa [List.removeAll] using hm
  rw [listedIds_concat hr, hn, List.eraseDups_nil, List.append_nil]

theorem listedIds_concat_of_not_mem (hr : r.validId = some id) (hid : id ∉ listedIds rs) :
    listedIds (rs ++ [r]) = listedIds rs ++ [id] := by
  have hm : id ∉ rs.filterMap (·.validId) := fun h => hid (List.mem_eraseDups.mpr h)
  have hn : [id].removeAll (rs.filterMap (·.validId)) = [id] := by
    simpa [List.removeAll] using hm
  rw [listedIds_concat hr, hn]
  rfl

end TrafficWatch.Wire

namespace TrafficWatch.Tracking

open Time Wire

/-- The records without an ID, by their positions. -/
def missingIds (rs : List (ConnectionRecord × Nat)) : List RecordError :=
  (rs.filter (·.1.validId.isNone)).map (.missingId ·.2)

namespace Table

def isOpen (t : Table) (id : String) : Bool := (t.get? id).any (! ·.completed)

def isClosed (t : Table) (id : String) : Bool := (t.get? id).any (·.completed)

namespace Pass

variable {p : Pass} {rs : List (ConnectionRecord × Nat)} {id : String}

theorem seen_foldl_record (h : p.table.Sound) (now : Instant) (rs : List (ConnectionRecord × Nat))
    (id : String) : (rs.foldl (Pass.record now) p).seen.contains id =
      (p.seen.contains id || (listedIds (rs.map (·.1))).contains id) := by
  have he := congrArg Entry.seen (foldl_record_entry h now rs id).2
  refine he.trans ?_
  cases hf : (rs.map (·.1)).find? (·.validId == some id) with
  | none =>
    have hm : id ∉ listedIds (rs.map (·.1)) := by simp [mem_listedIds, hf]
    simp [Entry.reported, Pass.entry, hm]
  | some r =>
    have hm : id ∈ listedIds (rs.map (·.1)) := by simp [mem_listedIds, hf]
    rw [List.contains_iff_mem.mpr hm, Bool.or_true]
    exact Entry.listed_seen ..

theorem get?_foldl_record (h : p.table.Sound) (now : Instant)
    (hid : id ∉ listedIds (rs.map (·.1))) :
    (rs.foldl (Pass.record now) p).table.get? id = p.table.get? id := by
  have he := congrArg Entry.row (foldl_record_entry h now rs id).2
  rw [mem_listedIds, Option.not_isSome_iff_eq_none] at hid
  rw [hid] at he
  exact he

/-- What a pass has written down once it has gone through some records. -/
structure Listed (t : Table) (rs : List (ConnectionRecord × Nat)) (p : Pass) : Prop where
  created : p.outcome.created = (listedIds (rs.map (·.1))).filter fun id => (t.get? id).isNone
  reappeared : p.outcome.reappeared = (listedIds (rs.map (·.1))).filter t.isClosed
  skipped : p.outcome.skipped = missingIds rs
  completed : p.outcome.completed = []
  order : p.table.order = t.order ++ p.outcome.created

variable {t : Table}

theorem Listed.skip (h : Listed t rs p) (now : Instant) {r : ConnectionRecord × Nat}
    (hr : r.1.validId = none) : Listed t (rs ++ [r]) (p.record now r) := by
  have hids : listedIds ((rs ++ [r]).map (·.1)) = listedIds (rs.map (·.1)) := by
    rw [List.map_append]
    exact listedIds_concat_of_none hr
  have hmissing : missingIds (rs ++ [r]) = missingIds rs ++ [.missingId r.2] := by
    simp [missingIds, hr]
  unfold Pass.record
  rw [hr]
  exact ⟨hids ▸ h.created, hids ▸ h.reappeared, by rw [hmissing, h.skipped], h.completed, h.order⟩

theorem Listed.repeated (h : Listed t rs p) (now : Instant) {r : ConnectionRecord × Nat}
    (hr : r.1.validId = some id) (hid : id ∈ listedIds (rs.map (·.1)))
    (hseen : p.seen.contains id = true) : Listed t (rs ++ [r]) (p.record now r) := by
  have hids : listedIds ((rs ++ [r]).map (·.1)) = listedIds (rs.map (·.1)) := by
    rw [List.map_append]
    exact listedIds_concat_of_mem hr hid
  have hmissing : missingIds (rs ++ [r]) = missingIds rs := by simp [missingIds, hr]
  have hp : p.record now r = p := by simp only [Pass.record, hr, hseen, ↓reduceIte]
  rw [hp]
  exact ⟨hids ▸ h.created, hids ▸ h.reappeared, hmissing ▸ h.skipped, h.completed, h.order⟩

theorem Listed.first (h : Listed t rs p) (now : Instant) {r : ConnectionRecord × Nat}
    (hr : r.1.validId = some id) (hid : id ∉ listedIds (rs.map (·.1)))
    (hseen : p.seen.contains id = false) (hrow : p.table.get? id = t.get? id) :
    Listed t (rs ++ [r]) (p.record now r) := by
  have hids : listedIds ((rs ++ [r]).map (·.1)) = listedIds (rs.map (·.1)) ++ [id] := by
    rw [List.map_append]
    exact listedIds_concat_of_not_mem hr hid
  have hmissing : missingIds (rs ++ [r]) = missingIds rs := by simp [missingIds, hr]
  have hfilter (f : String → Bool) : (listedIds ((rs ++ [r]).map (·.1))).filter f =
      (listedIds (rs.map (·.1))).filter f ++ if f id then [id] else [] := by
    rw [hids, List.filter_append, List.filter_singleton]
    cases f id <;> rfl
  simp only [Pass.record, hr, hseen, hrow, Bool.false_eq_true, ↓reduceIte]
  cases ht : t.get? id with
  | none =>
    exact {
      created := by rw [hfilter]; simp [h.created, ht]
      reappeared := by rw [hfilter]; simp [h.reappeared, isClosed, ht]
      skipped := hmissing ▸ h.skipped
      completed := h.completed
      order := by simp [put, h.order] }
  | some row =>
    have hcreated : p.outcome.created =
        (listedIds ((rs ++ [r]).map (·.1))).filter fun id => (t.get? id).isNone := by
      rw [hfilter]
      simp [h.created, ht]
    by_cases hc : row.completed = true
    · simp only [hc, ↓reduceIte]
      exact {
        created := hcreated
        reappeared := by rw [hfilter]; simp [h.reappeared, isClosed, ht, hc]
        skipped := hmissing ▸ h.skipped
        completed := h.completed
        order := h.order }
    · simp only [hc, Bool.false_eq_true, ↓reduceIte]
      exact {
        created := hcreated
        reappeared := by rw [hfilter]; simp [h.reappeared, isClosed, ht, hc]
        skipped := hmissing ▸ h.skipped
        completed := h.completed
        order := h.order }

theorem listed_foldl_record (h : t.Sound) (s : Snapshot) (now : Instant)
    (rs : List (ConnectionRecord × Nat)) :
    Listed t rs (rs.foldl (Pass.record now) (Pass.begin t s)) := by
  induction rs using List.reverseRecOn with
  | nil => exact ⟨rfl, rfl, rfl, rfl, (List.append_nil _).symm⟩
  | append_singleton rs r ih =>
    rw [List.foldl_append, List.foldl_cons, List.foldl_nil]
    cases hr : r.1.validId with
    | none => exact ih.skip now hr
    | some id =>
      have hs := seen_foldl_record (h.begin s) now rs id
      by_cases hid : id ∈ listedIds (rs.map (·.1))
      · exact ih.repeated now hr hid (by simpa [Pass.begin, hid] using hs)
      · exact ih.first now hr hid (by simpa [Pass.begin, hid] using hs)
          (get?_foldl_record (h.begin s) now hid)

/-- The rows that a pass closes, in the order in which it comes by them. -/
theorem foldl_absent (h : p.table.Sound) (now : Instant) {ids : List String} (hn : ids.Nodup) :
    (ids.foldl (Pass.absent now) p).outcome = { p.outcome with
        completed := p.outcome.completed ++
          ids.filter fun id => ! p.seen.contains id && p.table.isOpen id } ∧
      (ids.foldl (Pass.absent now) p).table.order = p.table.order := by
  induction ids using List.reverseRecOn with
  | nil => simp
  | append_singleton ids id ih =>
    obtain ⟨hids, -, hdisjoint⟩ := List.nodup_append.mp hn
    have hid : id ∉ ids := fun hm => hdisjoint id hm id (List.mem_singleton_self id) rfl
    obtain ⟨houtcome, horder⟩ := ih hids
    have hentry := (foldl_absent_entry h now ids id).2
    rw [if_neg hid] at hentry
    have hseen : (ids.foldl (Pass.absent now) p).seen.contains id = p.seen.contains id :=
      congrArg Entry.seen hentry
    have hrow : (ids.foldl (Pass.absent now) p).table.get? id = p.table.get? id :=
      congrArg Entry.row hentry
    rw [List.foldl_append, List.foldl_cons, List.foldl_nil, Pass.absent, hseen, hrow,
      List.filter_append, List.filter_singleton]
    by_cases hs : p.seen.contains id = true
    · simpa only [hs, ↓reduceIte, Bool.not_true, Bool.false_and, cond_false, List.append_nil] using
        ⟨houtcome, horder⟩
    · cases hr : p.table.get? id with
      | none => simp [hs, hr, isOpen, houtcome, horder]
      | some row => by_cases hc : row.completed <;> simp [hs, hr, hc, isOpen, put, houtcome, horder]

theorem record_totals (p : Pass) (now : Instant) (r : ConnectionRecord × Nat) :
    (p.record now r).table.totals = p.table.totals ∧
      (p.record now r).table.cycles = p.table.cycles := by
  unfold Pass.record
  split
  · exact ⟨rfl, rfl⟩
  · split
    · exact ⟨rfl, rfl⟩
    · dsimp only
      split
      · split <;> exact ⟨rfl, rfl⟩
      · exact ⟨rfl, rfl⟩

theorem absent_totals (p : Pass) (now : Instant) (id : String) :
    (p.absent now id).table.totals = p.table.totals ∧
      (p.absent now id).table.cycles = p.table.cycles := by
  unfold Pass.absent
  split
  · exact ⟨rfl, rfl⟩
  · split
    · split <;> exact ⟨rfl, rfl⟩
    · exact ⟨rfl, rfl⟩

theorem foldl_totals {α : Type} {f : Pass → α → Pass}
    (hf : ∀ p a, (f p a).table.totals = p.table.totals ∧ (f p a).table.cycles = p.table.cycles)
    (p : Pass) (l : List α) : (l.foldl f p).table.totals = p.table.totals ∧
      (l.foldl f p).table.cycles = p.table.cycles := by
  induction l generalizing p with
  | nil => exact ⟨rfl, rfl⟩
  | cons a l ih =>
    obtain ⟨htotals, hcycles⟩ := ih (f p a)
    exact ⟨htotals.trans (hf p a).1, hcycles.trans (hf p a).2⟩

end Pass

variable {t : Table}

/-- The records of a snapshot are gone through first. -/
theorem listed_snapshot (h : t.Sound) (s : Snapshot) (now : Instant) :
    ∃ p, p.table.Sound ∧ Pass.Listed t s.connections.zipIdx p ∧
      (∀ id, p.seen.contains id = s.ids.contains id) ∧
      (∀ id, id ∉ s.ids → p.table.get? id = t.get? id) ∧
      t.pass s now = p.table.order.foldl (Pass.absent now) p := by
  have hids : listedIds (s.connections.zipIdx.map (·.1)) = s.ids := by
    rw [List.zipIdx_map_fst, Snapshot.ids]
  refine ⟨s.connections.zipIdx.foldl (Pass.record now) (Pass.begin t s),
    (Pass.foldl_record_entry (h.begin s) now _ "").1, Pass.listed_foldl_record h s now _,
    fun id => ?_, fun id hid => ?_, rfl⟩
  · rw [Pass.seen_foldl_record (h.begin s), hids]
    simp [Pass.begin]
  · exact Pass.get?_foldl_record (h.begin s) now (by rwa [hids])

/-- A snapshot creates the connections that it lists and the table lacks, and closes the open ones
that it does not list. -/
theorem outcome_apply (h : t.Sound) (s : Snapshot) (now : Instant) :
    (t.apply s now).2 = {
      created := s.ids.filter fun id => (t.get? id).isNone
      completed := t.order.filter fun id => ! s.ids.contains id && t.isOpen id
      reappeared := s.ids.filter t.isClosed
      skipped := missingIds s.connections.zipIdx } := by
  obtain ⟨p, hsound, hlisted, hseen, hrow, hpass⟩ := listed_snapshot h s now
  have hids : listedIds (s.connections.zipIdx.map (·.1)) = s.ids := by
    rw [List.zipIdx_map_fst, Snapshot.ids]
  have hcreated : p.outcome.created = s.ids.filter fun id => (t.get? id).isNone :=
    hids ▸ hlisted.created
  have hopen : (fun id => ! p.seen.contains id && p.table.isOpen id) =
      fun id => ! s.ids.contains id && t.isOpen id := by
    funext id
    rw [hseen]
    by_cases hid : id ∈ s.ids
    · simp [hid]
    · simp [hid, isOpen, hrow id hid]
  have hnone : p.outcome.created.filter (fun id => ! s.ids.contains id && t.isOpen id) = [] := by
    refine List.filter_eq_nil_iff.mpr fun id hid => ?_
    have hm : id ∈ s.ids := by
      rw [hcreated] at hid
      exact (List.mem_filter.mp hid).1
    simp [hm]
  have hclosed : p.table.order.filter (fun id => ! p.seen.contains id && p.table.isOpen id) =
      t.order.filter fun id => ! s.ids.contains id && t.isOpen id := by
    rw [hopen, hlisted.order, List.filter_append, hnone, List.append_nil]
  have hreappeared : p.outcome.reappeared = s.ids.filter t.isClosed := hids ▸ hlisted.reappeared
  rw [apply_eq_pass, hpass]
  dsimp only
  rw [(Pass.foldl_absent hsound now hsound.nodup).1, hclosed]
  simp only [hcreated, hreappeared, hlisted.completed, hlisted.skipped, List.nil_append]

theorem order_apply (h : t.Sound) (s : Snapshot) (now : Instant) :
    (t.apply s now).1.order = t.order ++ (t.apply s now).2.created := by
  obtain ⟨p, hsound, hlisted, -, -, hpass⟩ := listed_snapshot h s now
  obtain ⟨houtcome, horder⟩ := Pass.foldl_absent hsound now hsound.nodup
  rw [apply_eq_pass, hpass]
  dsimp only
  rw [horder, houtcome, hlisted.order]

theorem totals_apply (t : Table) (s : Snapshot) (now : Instant) :
    (t.apply s now).1.totals = s.totals ∧ (t.apply s now).1.cycles = t.cycles + 1 := by
  obtain ⟨hlisted, hcount⟩ :=
    Pass.foldl_totals (Pass.record_totals · now) (Pass.begin t s) s.connections.zipIdx
  obtain ⟨htotals, hcycles⟩ := Pass.foldl_totals (Pass.absent_totals · now)
    (s.connections.zipIdx.foldl (Pass.record now) (Pass.begin t s))
    (s.connections.zipIdx.foldl (Pass.record now) (Pass.begin t s)).table.order
  exact ⟨htotals.trans hlisted, hcycles.trans hcount⟩

end Table

end TrafficWatch.Tracking
