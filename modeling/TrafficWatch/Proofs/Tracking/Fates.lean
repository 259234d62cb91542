import TrafficWatch.Proofs.Tracking.Eviction
import TrafficWatch.Proofs.Tracking.History

/-!
One snapshot, accounted for in full. Every record has one fate, which its place in the snapshot and
the table before decide; the outcome lists the records by their fates; and every row is followed
through: observed, closed, created or left as it was.
-/

namespace TrafficWatch.Wire

namespace Snapshot

/-- The ID of the record at a position. -/
def idAt (s : Snapshot) (i : Nat) : Option String := s.connections[i]?.bind (·.validId)

def lists (s : Snapshot) (id : String) : Bool := s.connections.any (·.validId == some id)

/-- The record at a position is the first one with its ID. -/
def First (s : Snapshot) (i : Nat) (id : String) : Prop :=
  s.idAt i = some id ∧ ∀ j < i, s.idAt j ≠ some id

/-- The snapshot without the record at a position. -/
def without (s : Snapshot) (i : Nat) : Snapshot :=
  { s with connections := s.connections.eraseIdx i }

end Snapshot

end TrafficWatch.Wire

namespace TrafficWatch.Tracking

open Time Wire

/-- What one record of a snapshot comes to. -/
inductive Fate where
  | nameless
  | repeated
  | created
  | reappeared
  | observed
deriving DecidableEq, Repr

/-- The number of an error once the record at a position has been left out. -/
def RecordError.closeUp (i : Nat) : RecordError → RecordError
  | .missingId j => .missingId (if i < j then j - 1 else j)

namespace Table

/-- Why a record has its fate. -/
inductive Falls (t : Table) (s : Snapshot) (i : Nat) : Fate → Prop where
  | nameless {r : ConnectionRecord} (record : s.connections[i]? = some r) (id : r.validId = none) :
    Falls t s i .nameless
  | repeated {id : String} (again : s.idAt i = some id) {j : Nat} (before : j < i)
    (earlier : s.idAt j = some id) : Falls t s i .repeated
  | created {id : String} (first : s.First i id) (absent : t.get? id = none) : Falls t s i .created
  | reappeared {id : String} {row : Row} (first : s.First i id) (held : t.get? id = some row)
    (closed : row.completed = true) : Falls t s i .reappeared
  | observed {id : String} {row : Row} (first : s.First i id) (held : t.get? id = some row)
    (goesOn : row.completed = false) : Falls t s i .observed

/-- The fate of a record whose ID has not occurred yet. -/
def firstFate (t : Table) (id : String) : Fate :=
  match t.get? id with
  | none => .created
  | some row => if row.completed then .reappeared else .observed

/-- The fate of a record after some others. -/
def fate (t : Table) (earlier : List ConnectionRecord) (r : ConnectionRecord) : Fate :=
  match r.validId with
  | none => .nameless
  | some id => if earlier.any (·.validId == some id) then .repeated else t.firstFate id

def fate? (t : Table) (s : Snapshot) (i : Nat) : Option Fate :=
  s.connections[i]?.map (t.fate (s.connections.take i))

end Table

end TrafficWatch.Tracking

namespace TrafficWatch.Wire.Snapshot

variable (s : Snapshot) {i : Nat} {id : String}

theorem idAt_eq_some : s.idAt i = some id ↔ ∃ r, s.connections[i]? = some r ∧ r.validId = some id :=
  Option.bind_eq_some_iff

/-- Whether an ID occurs before some position. -/
theorem any_take : (s.connections.take i).any (·.validId == some id) = true ↔
    ∃ j < i, s.idAt j = some id := by
  simp only [List.any_eq_true, beq_iff_eq, List.mem_iff_getElem?, List.getElem?_take, idAt_eq_some]
  constructor
  · rintro ⟨r, ⟨j, hj⟩, hid⟩
    split at hj
    · next hlt => exact ⟨j, hlt, r, hj, hid⟩
    · cases hj
  · rintro ⟨j, hlt, r, hr, hid⟩
    exact ⟨r, ⟨j, by rw [if_pos hlt, hr]⟩, hid⟩

theorem mem_listedIds_take : id ∈ listedIds (s.connections.take i) ↔ ∃ j < i, s.idAt j = some id := by
  rw [← any_take, mem_listedIds, List.find?_isSome, List.any_eq_true]

theorem lists_iff : s.lists id = true ↔ id ∈ s.ids := by
  rw [mem_ids, report?, List.find?_isSome, lists, List.any_eq_true]

/-- The record at a position is the first one with its ID, if it has one. -/
def isFirst (i : Nat) : Bool :=
  (s.idAt i).any fun id => ! (s.connections.take i).any (·.validId == some id)

theorem isFirst_iff : s.isFirst i = true ↔ ∃ id, s.First i id := by
  cases hid : s.idAt i with
  | none => simp [isFirst, First, hid]
  | some id =>
    have hany : (s.connections.take i).any (·.validId == some id) = false ↔
        ∀ j < i, s.idAt j ≠ some id := by
      rw [← Bool.not_eq_true, any_take]
      simp
    simp only [isFirst, First, hid, Option.any_some, Bool.not_eq_true', hany, Option.some.injEq,
      exists_eq_left']

/-- The IDs of a snapshot are those of the records that come first with theirs. -/
theorem listedIds_take (n : Nat) :
    listedIds (s.connections.take n) = ((List.range n).filter s.isFirst).filterMap s.idAt := by
  induction n with
  | zero => rfl
  | succ n ih =>
    rw [List.range_succ, List.filter_append, List.filterMap_append, ← ih, List.take_add_one]
    cases hr : s.connections[n]? with
    | none => simp [isFirst, idAt, hr]
    | some r =>
      rw [Option.toList_some]
      cases hid : r.validId with
      | none =>
        rw [listedIds_concat_of_none hid]
        simp [isFirst, idAt, hr, hid]
      | some id =>
        have hat : s.idAt n = some id := s.idAt_eq_some.mpr ⟨r, hr, hid⟩
        by_cases hm : id ∈ listedIds (s.connections.take n)
        · rw [listedIds_concat_of_mem hid hm]
          have hany := s.any_take.mpr (s.mem_listedIds_take.mp hm)
          simp [isFirst, hat, hany]
        · rw [listedIds_concat_of_not_mem hid hm]
          have hany : (s.connections.take n).any (·.validId == some id) = false :=
            Bool.eq_false_iff.mpr fun h => hm (s.mem_listedIds_take.mpr (s.any_take.mp h))
          simp [isFirst, hat, hany]

theorem ids_filter (q : String → Bool) : s.ids.filter q =
    ((List.range s.connections.length).filter fun i => s.isFirst i && (s.idAt i).any q).filterMap
      s.idAt := by
  have hall := s.listedIds_take s.connections.length
  rw [List.take_length] at hall
  rw [ids, hall, List.filter_filterMap, List.filterMap_filter, List.filterMap_filter]
  refine List.filterMap_congr fun i _ => ?_
  cases hid : s.idAt i with
  | none => simp
  | some id => cases hfirst : s.isFirst i <;> cases hq : q id <;> simp [hq]

theorem validId_of_idAt {r : ConnectionRecord} (h : s.idAt i = some id)
    (hr : s.connections[i]? = some r) : r.validId = some id := by
  rwa [idAt, hr, Option.bind_some] at h

theorem report?_of_first {r : ConnectionRecord} (h : s.First i id) (hr : s.connections[i]? = some r) :
    s.report? id = some r := by
  obtain ⟨hlt, hget⟩ := List.getElem?_eq_some_iff.mp hr
  have hid := s.validId_of_idAt h.1 hr
  refine List.find?_eq_some_iff_getElem.mpr ⟨by simp [hid], i, hlt, hget, fun j hj => ?_⟩
  have hne := h.2 j hj
  rw [idAt, List.getElem?_eq_getElem (Nat.lt_trans hj hlt), Option.bind_some] at hne
  simpa using hne

theorem report?_of_not_lists (h : s.lists id = false) : s.report? id = none := by
  rw [← Option.not_isSome_iff_eq_none, ← mem_ids, ← lists_iff, h]
  exact Bool.false_ne_true

/-- A snapshot around the record at a position. -/
theorem exists_around (h : s.idAt i = some id) : ∃ before r after, before.length = i ∧
    r.validId = some id ∧ s.connections = before ++ r :: after ∧
    (s.without i).connections = before ++ after := by
  obtain ⟨r, hr, hid⟩ := s.idAt_eq_some.mp h
  obtain ⟨hlt, hget⟩ := List.getElem?_eq_some_iff.mp hr
  refine ⟨s.connections.take i, r, s.connections.drop (i + 1),
    List.length_take_of_le (Nat.le_of_lt hlt), hid, ?_, List.eraseIdx_eq_take_drop_succ ..⟩
  rw [← hget, List.getElem_cons_drop, List.take_append_drop]

theorem any_before {before after : List ConnectionRecord} (hs : s.connections = before ++ after)
    {j : Nat} (hj : j < before.length) (hid : s.idAt j = some id) :
    before.any (·.validId == some id) = true := by
  have hany := s.any_take.mpr ⟨j, hj, hid⟩
  rwa [hs, List.take_left] at hany

end TrafficWatch.Wire.Snapshot

namespace TrafficWatch.Wire

variable {before after : List ConnectionRecord} {r : ConnectionRecord} {id : String}

/-- A record whose ID occurs before it is not looked at. -/
theorem find?_of_repeated (hid : r.validId = some id)
    (h : before.any (·.validId == some id) = true) (other : String) :
    (before ++ after).find? (·.validId == some other) =
      (before ++ r :: after).find? (·.validId == some other) := by
  rw [List.find?_append, List.find?_append]
  by_cases ho : id = other
  · subst ho
    obtain ⟨x, hx⟩ := Option.isSome_iff_exists.mp (List.find?_isSome.mpr (List.any_eq_true.mp h))
    rw [hx, Option.some_or, Option.some_or]
  · rw [List.find?_cons_of_neg (by simp [hid, ho])]

theorem listedIds_of_repeated (hid : r.validId = some id)
    (h : before.any (·.validId == some id) = true) :
    listedIds (before ++ after) = listedIds (before ++ r :: after) := by
  have hm : id ∈ before.filterMap (·.validId) := by
    obtain ⟨x, hx, hxid⟩ := List.any_eq_true.mp h
    exact List.mem_filterMap.mpr ⟨x, hx, by simpa using hxid⟩
  simp only [listedIds, List.filterMap_append, List.filterMap_cons, hid, List.eraseDups_append]
  congr 2
  have hseen : ¬ (before.filterMap (·.validId)).contains id = false := by
    rw [List.contains_iff_mem.mpr hm]
    exact Bool.noConfusion
  rw [List.cons_removeAll, if_neg hseen]

end TrafficWatch.Wire

namespace TrafficWatch.Tracking

open Time Wire

namespace Table

variable (t : Table) (s : Snapshot) {i : Nat} {id : String} {f : Fate}

theorem fate?_of_idAt (h : s.idAt i = some id) : t.fate? s i =
    some (if (s.connections.take i).any (·.validId == some id) then .repeated else t.firstFate id) := by
  obtain ⟨r, hr, hid⟩ := s.idAt_eq_some.mp h
  simp only [fate?, hr, Option.map_some, fate, hid]

theorem fate?_of_first (h : s.First i id) : t.fate? s i = some (t.firstFate id) := by
  rw [t.fate?_of_idAt s h.1, if_neg]
  intro hany
  obtain ⟨j, hlt, hj⟩ := s.any_take.mp hany
  exact h.2 j hlt hj

theorem falls_of_first (h : s.First i id) : t.Falls s i (t.firstFate id) := by
  unfold firstFate
  split
  · next hrow => exact .created h hrow
  · next row hrow =>
    split
    · next hc => exact .reappeared h hrow hc
    · next hc => exact .observed h hrow (Bool.eq_false_iff.mpr hc)

theorem falls_iff : t.Falls s i f ↔ t.fate? s i = some f := by
  constructor
  · intro h
    cases h with
    | nameless record id => simp only [fate?, record, Option.map_some, fate, id]
    | repeated again before earlier =>
      rw [t.fate?_of_idAt s again, if_pos (s.any_take.mpr ⟨_, before, earlier⟩)]
    | created first absent => simp only [t.fate?_of_first s first, firstFate, absent]
    | reappeared first held closed => simp [t.fate?_of_first s first, firstFate, held, closed]
    | observed first held goesOn => simp [t.fate?_of_first s first, firstFate, held, goesOn]
  · intro h
    obtain ⟨r, hr, -⟩ := Option.map_eq_some_iff.mp h
    cases hid : r.validId with
    | none =>
      simp only [fate?, hr, Option.map_some, fate, hid, Option.some.injEq] at h
      exact h ▸ .nameless hr hid
    | some id =>
      have hat : s.idAt i = some id := s.idAt_eq_some.mpr ⟨r, hr, hid⟩
      rw [t.fate?_of_idAt s hat] at h
      split at h
      · next hany =>
        obtain ⟨j, hlt, hj⟩ := s.any_take.mp hany
        exact Option.some.inj h ▸ .repeated hat hlt hj
      · next hany =>
        refine Option.some.inj h ▸ t.falls_of_first s ⟨hat, fun j hlt hj => ?_⟩
        exact hany (s.any_take.mpr ⟨j, hlt, hj⟩)

instance (i : Nat) (f : Fate) : Decidable (t.Falls s i f) := decidable_of_iff _ (t.falls_iff s).symm

theorem existsUnique_fate (h : i < s.connections.length) : ∃! f, t.Falls s i f := by
  have hr : s.connections[i]? = some s.connections[i] := List.getElem?_eq_getElem h
  refine ⟨t.fate (s.connections.take i) s.connections[i], ?_, fun f hf => ?_⟩
  · exact (t.falls_iff s).mpr (by rw [fate?, hr, Option.map_some])
  · have hfate := (t.falls_iff s).mp hf
    rw [fate?, hr, Option.map_some] at hfate
    exact (Option.some.inj hfate).symm

/-- The positions of the records with one fate, in the order of the snapshot. -/
def positions (f : Fate) : List Nat := (List.range s.connections.length).filter fun i => t.Falls s i f

theorem falls_iff_first (hf : f ≠ .nameless) (hf' : f ≠ .repeated) :
    t.Falls s i f ↔ ∃ id, s.First i id ∧ t.firstFate id = f := by
  constructor
  · intro h
    cases h with
    | nameless => exact absurd rfl hf
    | repeated => exact absurd rfl hf'
    | created first absent => exact ⟨_, first, by simp only [firstFate, absent]⟩
    | reappeared first held closed => exact ⟨_, first, by simp [firstFate, held, closed]⟩
    | observed first held goesOn => exact ⟨_, first, by simp [firstFate, held, goesOn]⟩
  · rintro ⟨id, first, rfl⟩
    exact t.falls_of_first s first

/-- The IDs that come first in the snapshot with one of the fates that this leaves open. -/
theorem ids_of_fate (hf : f ≠ .nameless) (hf' : f ≠ .repeated) :
    s.ids.filter (fun id => t.firstFate id = f) = (t.positions s f).filterMap s.idAt := by
  rw [s.ids_filter, positions]
  congr 1
  refine List.filter_congr fun i _ => ?_
  rw [Bool.eq_iff_iff, Bool.and_eq_true, s.isFirst_iff, decide_eq_true_iff, t.falls_iff_first s hf hf']
  constructor
  · rintro ⟨⟨id, first⟩, hany⟩
    rw [first.1, Option.any_some, decide_eq_true_iff] at hany
    exact ⟨id, first, hany⟩
  · rintro ⟨id, first, hfate⟩
    refine ⟨⟨id, first⟩, ?_⟩
    rw [first.1, Option.any_some, decide_eq_true_iff]
    exact hfate

theorem firstFate_eq_created (id : String) : t.firstFate id = .created ↔ t.get? id = none := by
  unfold firstFate
  cases t.get? id with
  | none => simp
  | some row => cases hc : row.completed <;> simp [hc]

theorem firstFate_eq_reappeared (id : String) : t.firstFate id = .reappeared ↔ t.isClosed id = true := by
  unfold firstFate isClosed
  cases t.get? id with
  | none => simp
  | some row => cases hc : row.completed <;> simp [hc]

theorem falls_nameless_iff :
    t.Falls s i .nameless ↔ ∃ r, s.connections[i]? = some r ∧ r.validId = none := by
  constructor
  · rintro (⟨hr, hid⟩)
    exact ⟨_, hr, hid⟩
  · rintro ⟨r, hr, hid⟩
    exact .nameless hr hid

theorem missingIds_take (n : Nat) : missingIds (s.connections.take n).zipIdx =
    ((List.range n).filter fun i => t.Falls s i .nameless).map .missingId := by
  induction n with
  | zero => rfl
  | succ n ih =>
    rw [List.range_succ, List.filter_append, List.map_append, ← ih, List.take_add_one]
    cases hr : s.connections[n]? with
    | none =>
      have hf : ¬ t.Falls s n .nameless := by simp [falls_nameless_iff, hr]
      simp [hf]
    | some r =>
      have hlength : (s.connections.take n).length = n :=
        List.length_take_of_le (Nat.le_of_lt (List.getElem?_eq_some_iff.mp hr).1)
      have hf : t.Falls s n .nameless ↔ r.validId = none := by simp [falls_nameless_iff, hr]
      rw [Option.toList_some, List.zipIdx_append, List.zipIdx_singleton, Nat.zero_add, hlength,
        missingIds, List.filter_append, List.map_append, ← missingIds]
      by_cases hid : r.validId = none <;> simp [hf, hid]

theorem missingIds_eq : missingIds s.connections.zipIdx =
    (t.positions s .nameless).map .missingId := by
  have h := t.missingIds_take s s.connections.length
  rwa [List.take_length] at h

end Table

/-- Behind a record with an ID, the numbers of the others come one earlier without it. -/
theorem missingIds_of_named {before after : List ConnectionRecord} {r : ConnectionRecord}
    (hr : r.validId.isSome) : missingIds (before ++ after).zipIdx =
      (missingIds (before ++ r :: after).zipIdx).map (.closeUp before.length) := by
  have hbefore : (missingIds before.zipIdx).map (.closeUp before.length) =
      missingIds before.zipIdx := by
    rw [missingIds, List.map_map]
    refine List.map_congr_left fun x hx => ?_
    have hlt := (List.mem_zipIdx (List.mem_filter.mp hx).1).2.1
    simp only [Function.comp_apply, RecordError.closeUp]
    rw [if_neg (by omega)]
  have hafter (k : Nat) (hk : before.length ≤ k) :
      (missingIds (after.zipIdx (k + 1))).map (.closeUp before.length) =
        missingIds (after.zipIdx k) := by
    rw [List.zipIdx_succ, missingIds, missingIds, List.filter_map, List.map_map, List.map_map]
    refine List.map_congr_left fun x hx => ?_
    have hle := (List.mem_zipIdx (List.mem_filter.mp hx).1).1
    simp only [Function.comp_apply, RecordError.closeUp]
    rw [if_pos (by omega), Nat.add_sub_cancel]
  have hnone : r.validId.isNone = false := by simpa using hr
  have happend (xs ys : List (ConnectionRecord × Nat)) :
      missingIds (xs ++ ys) = missingIds xs ++ missingIds ys := by
    simp [missingIds]
  have hcons (k : Nat) (ys : List (ConnectionRecord × Nat)) :
      missingIds ((r, k) :: ys) = missingIds ys := by
    simp [missingIds, hnone]
  rw [List.zipIdx_append, List.zipIdx_append, List.zipIdx_cons, happend, happend, hcons,
    List.map_append, hbefore, Nat.zero_add, hafter _ (Nat.le_refl _)]


namespace Table

variable {t : Table} {s : Snapshot} {now : Instant}

/-- What one snapshot does, record by record and row by row. -/
structure Accounts (t : Table) (s : Snapshot) (now : Instant) : Prop where
  fate : ∀ i < s.connections.length, ∃! f, t.Falls s i f
  skipped : (t.apply s now).2.skipped = (t.positions s .nameless).map .missingId
  /-- Without the record everything is the same, but for the numbers of those behind it. -/
  repeated : ∀ i, t.Falls s i .repeated → (t.apply (s.without i) now).1 = (t.apply s now).1 ∧
    (t.apply (s.without i) now).2 = { (t.apply s now).2 with
      skipped := (t.apply s now).2.skipped.map (.closeUp i) }
  created : (t.apply s now).2.created = (t.positions s .created).filterMap s.idAt
  opened : ∀ i r id, t.Falls s i .created → s.connections[i]? = some r → r.validId = some id →
    (t.apply s now).1.get? id = some (.opened id r now)
  reappeared : (t.apply s now).2.reappeared = (t.positions s .reappeared).filterMap s.idAt
  observed : ∀ i r id row, t.Falls s i .observed → s.connections[i]? = some r →
    r.validId = some id → t.get? id = some row →
      (t.apply s now).1.get? id = some (row.observe r now)
  completed : (t.apply s now).2.completed =
    (t.rows.filter fun row => ! row.completed && ! s.lists row.id).map (·.id)
  closed : ∀ row ∈ t.rows, row.completed = false → s.lists row.id = false →
    (t.apply s now).1.get? row.id = some (row.close now)
  /-- A row that is not open stays as it is, listed or not. -/
  kept : ∀ row ∈ t.rows, row.completed = true → (t.apply s now).1.get? row.id = some row
  /-- What is not listed and has no row has none afterwards. -/
  absent : ∀ id, t.get? id = none → s.lists id = false → (t.apply s now).1.get? id = none
  nodup : ((t.apply s now).2.created ++ (t.apply s now).2.completed ++
    (t.apply s now).2.reappeared).Nodup
  order : (t.apply s now).1.rows.map (·.id) = t.rows.map (·.id) ++ (t.apply s now).2.created
  totals : (t.apply s now).1.totals = s.totals
  cycles : (t.apply s now).1.cycles = t.cycles + 1

theorem nodup_mentioned (h : t.Sound) (s : Snapshot) (now : Instant) :
    ((t.apply s now).2.created ++ (t.apply s now).2.completed ++
      (t.apply s now).2.reappeared).Nodup := by
  refine List.nodup_iff_count.mpr fun id => ?_
  have hm := congrArg List.length (mentions_apply h s now id)
  have hone : (Row.mentions (s.report? id) (t.get? id)).length ≤ 1 := by
    unfold Row.mentions
    split <;> (try split) <;> simp
  rw [Outcome.mentions, List.length_append, List.length_append, List.length_replicate,
    List.length_replicate, List.length_replicate] at hm
  rw [List.count_append, List.count_append, hm]
  exact hone

theorem map_id_rows (h : t.Sound) : t.rows.map (·.id) = t.order := by
  have hone (id : String) (hid : id ∈ t.order) : (t.get? id).map (·.id) = some id := by
    obtain ⟨row, hrow⟩ := Option.isSome_iff_exists.mp ((h.mem_order id).mp hid)
    rw [hrow, Option.map_some, h.id_eq id row hrow]
  rw [rows, List.map_filterMap, List.filterMap_congr hone, List.filterMap_some]

/-- The rows that a snapshot closes, as they stand in the table. -/
theorem completed_apply (h : t.Sound) (s : Snapshot) (now : Instant) :
    (t.apply s now).2.completed =
      (t.rows.filter fun row => ! row.completed && ! s.lists row.id).map (·.id) := by
  rw [outcome_apply h, rows, List.filter_filterMap, List.map_filterMap]
  refine (List.filterMap_some.symm.trans List.filterMap_filter).trans
    (List.filterMap_congr fun id hid => ?_)
  obtain ⟨row, hrow⟩ := Option.isSome_iff_exists.mp ((h.mem_order id).mp hid)
  have hlists : s.lists id = s.ids.contains id := by
    rw [Bool.eq_iff_iff, s.lists_iff, List.contains_iff_mem]
  simp only [hrow, isOpen, Option.any_some, Option.filter_some, h.id_eq id row hrow, hlists]
  cases s.ids.contains id <;> cases row.completed <;> simp [h.id_eq id row hrow]

/-- A record whose ID occurs before it could as well not be there. -/
theorem apply_without (h : t.Sound) (now : Instant) {i : Nat} (hi : t.Falls s i .repeated) :
    (t.apply (s.without i) now).1 = (t.apply s now).1 ∧
      (t.apply (s.without i) now).2 = { (t.apply s now).2 with
        skipped := (t.apply s now).2.skipped.map (.closeUp i) } := by
  obtain ⟨id, j, again, hlt, earlier⟩ :
      ∃ id j, s.idAt i = some id ∧ j < i ∧ s.idAt j = some id := by
    cases hi with
    | repeated again before earlier => exact ⟨_, _, again, before, earlier⟩
  obtain ⟨before, r, after, hlength, hid, hs, hwithout⟩ := s.exists_around again
  have hany := s.any_before hs (hlength ▸ hlt) earlier
  have hreport (id : String) : (s.without i).report? id = s.report? id := by
    rw [Snapshot.report?, Snapshot.report?, hs, hwithout, find?_of_repeated hid hany]
  have hids : (s.without i).ids = s.ids := by
    rw [Snapshot.ids, Snapshot.ids, hs, hwithout, listedIds_of_repeated hid hany]
  have hmissing : missingIds (s.without i).connections.zipIdx =
      (missingIds s.connections.zipIdx).map (.closeUp i) := by
    rw [hs, hwithout, missingIds_of_named (Option.isSome_of_eq_some hid), hlength]
  have houtcome : (t.apply (s.without i) now).2 = { (t.apply s now).2 with
      skipped := (t.apply s now).2.skipped.map (.closeUp i) } := by
    rw [outcome_apply h, outcome_apply h, hids, hmissing]
  refine ⟨ext_get? ?_ ?_ ?_ fun id => ?_, houtcome⟩
  · rw [order_apply h, order_apply h, houtcome]
  · rw [(totals_apply t _ now).1, (totals_apply t s now).1]
    rfl
  · rw [(totals_apply t _ now).2, (totals_apply t s now).2]
  · rw [get?_apply h, get?_apply h, hreport]

theorem accounts (h : t.Sound) (s : Snapshot) (now : Instant) : t.Accounts s now where
  fate i hi := t.existsUnique_fate s hi
  skipped := by rw [outcome_apply h, missingIds_eq]
  repeated i hi := apply_without h now hi
  created := by
    rw [outcome_apply h, ← t.ids_of_fate s (f := .created) nofun nofun]
    refine List.filter_congr fun id _ => ?_
    rw [Bool.eq_iff_iff, decide_eq_true_iff, firstFate_eq_created, Option.isNone_iff_eq_none]
  opened i r id hi hr hid := by
    cases hi with
    | created first absent =>
      obtain rfl := Option.some.inj (hid.symm.trans (s.validId_of_idAt first.1 hr))
      rw [get?_apply h, s.report?_of_first first hr, absent]
      rfl
  reappeared := by
    rw [outcome_apply h, ← t.ids_of_fate s (f := .reappeared) nofun nofun]
    refine List.filter_congr fun id _ => ?_
    rw [Bool.eq_iff_iff, decide_eq_true_iff, firstFate_eq_reappeared]
  observed i r id row hi hr hid hrow := by
    cases hi with
    | observed first held goesOn =>
      obtain rfl := Option.some.inj (hid.symm.trans (s.validId_of_idAt first.1 hr))
      obtain rfl := Option.some.inj (hrow.symm.trans held)
      rw [get?_apply h, s.report?_of_first first hr, hrow]
      simp [Row.next, goesOn]
  completed := completed_apply h s now
  closed row hrow ho hl := by
    rw [get?_apply h, s.report?_of_not_lists hl, get?_of_mem_rows h hrow]
    simp [Row.next, ho]
  kept row hrow hc := by
    rw [get?_apply h, get?_of_mem_rows h hrow]
    simp [Row.next, hc]
  absent id hrow hl := by
    rw [get?_apply h, s.report?_of_not_lists hl, hrow]
    rfl
  nodup := nodup_mentioned h s now
  order := by
    rw [map_id_rows (h.apply s now), map_id_rows h, order_apply h]
  totals := (totals_apply t s now).1
  cycles := (totals_apply t s now).2

/-- Whatever has been done to a table before, a snapshot accounts for every record and every row. -/
theorem apply_accounts (ops : List Op) (s : Snapshot) (now : Instant) :
    (empty.run ops).1.Accounts s now :=
  accounts (sound_run_empty ops) s now

end Table

end TrafficWatch.Tracking
