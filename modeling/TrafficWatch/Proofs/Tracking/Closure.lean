import TrafficWatch.Proofs.Tracking.History

/-!
Closed rows. A row is closed once, by the first snapshot that does not list its connection, and
stays as it is until it is evicted; the outcomes of a run tell this story in order.
-/

namespace TrafficWatch.Tracking

open Time Wire

/-- The mentions of a closed connection, snapshot by snapshot. -/
def reappearances (xs : List Sighting) : List (List Mention) :=
  xs.map fun x => if x.record.isSome then [.reappeared] else []

/-- What may come after the snapshots that list an open connection, with its mentions. -/
inductive Ending : List Sighting → List (List Mention) → Prop where
  | stillOpen : Ending [] []
  | closed (time : Instant) (later : List Sighting) :
    Ending (⟨time, none⟩ :: later) ([.completed] :: reappearances later)

namespace Row

/-- The mentions of a connection, snapshot by snapshot, if nothing evicts it in between. -/
def mentionsLife (id : String) : List Sighting → Option Row → List (List Mention)
  | [], _ => []
  | x :: xs, row =>
    Row.mentions x.record row :: mentionsLife id xs (Row.next id x.record x.time row)

theorem along_of_completed {id : String} {ops : List Table.Op} {row : Row}
    (hc : row.completed = true) (he : .evict id ∉ ops) (hall : .evictCompleted ∉ ops) :
    Row.along id ops (some row) = some row := by
  induction ops with
  | nil => rfl
  | cons op ops ih =>
    have ha : Row.after id op (some row) = some row := by
      cases op with
      | apply s now => simp [Row.after, Row.next, hc]
      | evict other =>
        have hid : other ≠ id := by rintro rfl; exact he List.mem_cons_self
        simp [Row.after, hid]
      | evictCompleted => exact absurd List.mem_cons_self hall
    have ht := ih (fun hm => he (List.mem_cons_of_mem _ hm))
      (fun hm => hall (List.mem_cons_of_mem _ hm))
    exact (congrArg (Row.along id ops) ha).trans ht

theorem mentionsLife_of_completed {id : String} {row : Row} (hc : row.completed = true)
    (xs : List Sighting) : mentionsLife id xs (some row) = reappearances xs := by
  induction xs with
  | nil => rfl
  | cons x xs ih =>
    have hn : Row.next id x.record x.time (some row) = some row := by simp [Row.next, hc]
    have hm : Row.mentions x.record (some row) =
        if x.record.isSome then [.reappeared] else [] := by
      cases h : x.record <;> simp [Row.mentions, hc]
    simp only [mentionsLife, hn, hm, ih, reappearances, List.map_cons]

theorem mentionsLife_of_open (id : String) (row : Row) (ho : row.completed = false)
    (xs : List Sighting) :
    ∃ (rest : List Report) (tail : List Sighting) (end' : List (List Mention)),
      xs = rest.map Report.sighting ++ tail ∧ Ending tail end' ∧
      mentionsLife id xs (some row) = rest.map (fun _ => []) ++ end' := by
  induction xs generalizing row with
  | nil => exact ⟨[], [], [], rfl, .stillOpen, rfl⟩
  | cons x xs ih =>
    obtain ⟨time, record⟩ := x
    cases record with
    | none =>
      refine ⟨[], ⟨time, none⟩ :: xs, _, rfl, .closed time xs, ?_⟩
      simp only [mentionsLife, Row.next, Row.mentions, ho, Bool.false_eq_true, ↓reduceIte,
        List.map_nil, List.nil_append]
      rw [mentionsLife_of_completed rfl]
    | some r =>
      obtain ⟨rest, tail, end', hx, hend, hm⟩ := ih (row.observe r time) ho
      refine ⟨⟨time, r⟩ :: rest, tail, end', by simp [hx, Report.sighting], hend, ?_⟩
      simp only [mentionsLife, Row.next, Row.mentions, ho, Bool.false_eq_true, ↓reduceIte, hm,
        List.map_cons, List.cons_append]

/-- A connection that comes into the table is passed over first, then created, then open. -/
theorem mentionsLife_of_absent {id : String} {xs : List Sighting}
    (h : (life id xs none).isSome) :
    ∃ (unlisted : List Sighting) (first : Report) (rest : List Report) (tail : List Sighting)
      (end' : List (List Mention)), (∀ x ∈ unlisted, x.record = none) ∧
      xs = unlisted ++ (first :: rest).map Report.sighting ++ tail ∧ Ending tail end' ∧
      mentionsLife id xs none =
        unlisted.map (fun _ => []) ++ [.created] :: rest.map (fun _ => []) ++ end' := by
  induction xs with
  | nil => cases h
  | cons x xs ih =>
    obtain ⟨time, record⟩ := x
    cases record with
    | none =>
      obtain ⟨unlisted, first, rest, tail, end', hu, hx, hend, hm⟩ := ih h
      refine ⟨⟨time, none⟩ :: unlisted, first, rest, tail, end', ?_, by simp [hx], hend, ?_⟩
      · simpa using hu
      · simpa [mentionsLife, Row.next, Row.mentions] using hm
    | some r =>
      obtain ⟨rest, tail, end', hx, hend, hm⟩ :=
        mentionsLife_of_open id (opened id r time) rfl xs
      refine ⟨[], ⟨time, r⟩, rest, tail, end', by simp, by simp [hx, Report.sighting], hend, ?_⟩
      simpa [mentionsLife, Row.next, Row.mentions] using hm

end Row

namespace Table

/-- The mentions of a connection in the outcomes of a run, snapshot by snapshot. -/
def mentionsIn (id : String) (results : List Result) : List (List Mention) :=
  results.filterMap fun
    | .applied o => some (o.mentions id)
    | _ => none

theorem mentionsIn_run {t : Table} (h : t.Sound) {id : String} {ops : List Op}
    (hk : Row.Kept id ops (t.get? id)) :
    mentionsIn id (t.run ops).2 = Row.mentionsLife id (sightings id ops) (t.get? id) := by
  induction ops generalizing t with
  | nil => rfl
  | cons op ops ih =>
    obtain ⟨hop, hops⟩ := hk
    rw [← get?_step h] at hops
    have ht := ih (h.step op) hops
    rw [get?_step h] at ht
    cases op with
    | apply s now =>
      have hm := mentions_apply h s now id
      simp only [mentionsIn, run, step, List.filterMap_cons, sightings, Row.mentionsLife, hm]
      exact congrArg _ ht
    | evict other | evictCompleted =>
      rw [Row.after_eq_self (by simp) hop] at ht
      exact ht

/-- An operation after some others takes the row of a connection out of the table. -/
structure Evicts (id : String) (before : List Op) (op : Op) : Prop where
  present : ((empty.run before).1.get? id).isSome
  gone : (empty.run (before ++ [op])).1.get? id = none

theorem not_evicts_apply (id : String) (before : List Op) (s : Snapshot) (now : Instant) :
    ¬ Evicts id before (.apply s now) := by
  rintro ⟨hp, hn⟩
  have hs := Row.next_isSome id (s.report? id) now hp
  rw [← get?_apply (sound_run_empty before)] at hs
  rw [run_append] at hn
  exact Option.ne_none_iff_isSome.mpr hs hn

theorem kept_of_not_evicts {id : String} {before ops : List Op}
    (h : ∀ mid op, mid ++ [op] <+: ops → ¬ Evicts id (before ++ mid) op) :
    Row.Kept id ops ((empty.run before).1.get? id) := by
  induction ops generalizing before with
  | nil => trivial
  | cons op ops ih =>
    have hstep : Row.after id op ((empty.run before).1.get? id) =
        (empty.run (before ++ [op])).1.get? id := by
      rw [run_append, ← get?_step (sound_run_empty before)]
      rfl
    rw [Row.Kept, hstep]
    constructor
    · intro hp
      rw [← Option.ne_none_iff_isSome]
      intro hn
      exact h [] op (by simp) ⟨by simpa using hp, by simpa using hn⟩
    · refine ih fun mid other hm => ?_
      have hne := h (op :: mid) other (List.cons_prefix_cons.mpr ⟨rfl, hm⟩)
      simpa using hne

/-- The story of a closed row: a first snapshot since its creation that did not list it, which left
it as the snapshot just before. -/
def ClosedByFirstMiss (ops : List Op) (row : Row) : Prop :=
  ∃ before s now after first rest time later, LatestCreation ops row.id before s now after ∧
    sightings row.id (.apply s now :: after) =
      (first :: rest).map Report.sighting ++ ⟨time, none⟩ :: later ∧
    row.closedAt = some time ∧ row.speed = { upload := 0, download := 0 } ∧
    row.counters = (rest.getLastD first).record.counters ∧
    row.lastSeen = (rest.getLastD first).time

/-- The story of a connection in the outcomes: created once, completed once at most, and then
reappeared once in each snapshot that lists it. -/
def MentionedInOrder (id : String) (ops : List Op) (results : List Result) : Prop :=
  ∃ unlisted first rest tail end', (∀ x ∈ unlisted, x.record = none) ∧
    sightings id ops = unlisted ++ (first :: rest).map Report.sighting ++ tail ∧
    Ending tail end' ∧
    mentionsIn id results =
      unlisted.map (fun _ => []) ++ [.created] :: rest.map (fun _ => []) ++ end'

theorem completed_iff_closedAt (ops : List Op) (row : Row) (hrow : row ∈ (empty.run ops).1.rows) :
    (row.completed = true ↔ row.closedAt.isSome) ∧
      (row.completed = true → ClosedByFirstMiss ops row) := by
  have hg := get?_of_mem_rows (sound_run_empty ops) hrow
  rw [get?_run_empty] at hg
  obtain ⟨before, s, now, after, first, rest, rfl, hb, hr, hk, hend⟩ := Row.exists_history hg
  rcases hend with ⟨-, hopen⟩ | ⟨time, later, hx, hclosed⟩
  · have hc : row.completed = false := by rw [hopen]; rfl
    have ha : row.closedAt = none := by rw [hopen]; rfl
    simp [hc, ha]
  · have hc : row.completed = true := by rw [hclosed]; rfl
    have ha : row.closedAt = some time := by rw [hclosed]; rfl
    refine ⟨by simp [hc, ha], fun _ => ?_⟩
    refine ⟨before, s, now, after, first, rest, time, later, latestCreation_of_kept hb hr hk, hx,
      ha, ?_, ?_, ?_⟩
    all_goals rw [hclosed]; rfl

theorem mentionedInOrder_of_kept {before ops : List Op} {id : String}
    (habsent : (empty.run before).1.get? id = none)
    (hkept : ∀ mid op, mid ++ [op] <+: ops → ¬ Evicts id (before ++ mid) op)
    (hpresent : ((empty.run (before ++ ops)).1.get? id).isSome) :
    MentionedInOrder id ops ((empty.run before).1.run ops).2 := by
  have hk := kept_of_not_evicts hkept
  have hm := mentionsIn_run (sound_run_empty before) hk
  rw [run_append, get?_run (sound_run_empty before), Row.along_eq_life hk, habsent] at hpresent
  obtain ⟨unlisted, first, rest, tail, end', hu, hx, hend, hl⟩ :=
    Row.mentionsLife_of_absent hpresent
  rw [habsent, hl] at hm
  exact ⟨unlisted, first, rest, tail, end', hu, hx, hend, hm⟩

/-- Closure is final. A closed row keeps every field until it is evicted; a row is closed by the
first snapshot that misses it; and from where a connection has no row, as after an eviction, to
where it has one, as before the next eviction, the outcomes tell its story in order. -/
theorem closure_permanent :
    (∀ ops, ∀ row ∈ (empty.run ops).1.rows, row.completed = true →
      ∀ more, .evict row.id ∉ more → .evictCompleted ∉ more →
        (empty.run (ops ++ more)).1.get? row.id = some row) ∧
    (∀ ops, ∀ row ∈ (empty.run ops).1.rows, (row.completed = true ↔ row.closedAt.isSome) ∧
      (row.completed = true → ClosedByFirstMiss ops row)) ∧
    ∀ id before ops, (empty.run before).1.get? id = none →
      (∀ mid op, mid ++ [op] <+: ops → ¬ Evicts id (before ++ mid) op) →
      ((empty.run (before ++ ops)).1.get? id).isSome →
      MentionedInOrder id ops ((empty.run before).1.run ops).2 := by
  refine ⟨fun ops row hrow hc more he hall => ?_, completed_iff_closedAt, fun id before ops => ?_⟩
  · have hg := get?_of_mem_rows (sound_run_empty ops) hrow
    rw [run_append, get?_run (sound_run_empty ops), hg]
    exact Row.along_of_completed hc he hall
  · exact mentionedInOrder_of_kept

/-- A connection that is missed once and comes back. -/
def missedOnce : List Op := [
  .apply { connections := [{ id := some "a", counters := ⟨10, 3⟩ }] } ⟨0, 0, 0⟩,
  .apply {} ⟨0, 1, 0⟩,
  .apply { connections := [{ id := some "a", counters := ⟨99, 9⟩ }] } ⟨0, 2, 0⟩]

theorem closure_of_missedOnce :
    ∃ row ∈ (empty.run missedOnce).1.rows, row.completed = true ∧ row.counters = ⟨10, 3⟩ ∧
      (empty.run (missedOnce ++ [.apply {} ⟨0, 3, 0⟩, .evict "b"])).1.get? row.id = some row ∧
      ClosedByFirstMiss missedOnce row ∧
      MentionedInOrder row.id missedOnce (empty.run missedOnce).2 := by
  have hlast : ((empty.run missedOnce).1.get? "a").map
      (fun row => (row.id, row.completed, row.counters)) = some ("a", true, ⟨10, 3⟩) := by
    decide +kernel
  obtain ⟨row, hget, hrow⟩ := Option.map_eq_some_iff.mp hlast
  obtain ⟨hid, hc, hcounters⟩ : row.id = "a" ∧ row.completed = true ∧ row.counters = ⟨10, 3⟩ := by
    simpa using hrow
  have hm : row ∈ (empty.run missedOnce).1.rows :=
    List.mem_filterMap.mpr ⟨"a", by decide +kernel, hget⟩
  obtain ⟨hfrozen, hclosed, hmentions⟩ := closure_permanent
  refine ⟨row, hm, hc, hcounters, hfrozen missedOnce row hm hc _ ?_ (by simp),
    (hclosed missedOnce row hm).2 hc, hmentions row.id [] missedOnce (get?_empty _) ?_ ?_⟩
  · simp [hid]
  · intro mid op hmid
    have hop : op ∈ missedOnce := hmid.subset (by simp)
    obtain ⟨s, now, rfl⟩ : ∃ s now, op = .apply s now := by
      simp only [missedOnce, List.mem_cons, List.not_mem_nil, or_false] at hop
      rcases hop with rfl | rfl | rfl <;> exact ⟨_, _, rfl⟩
    exact not_evicts_apply _ _ s now
  · rw [hid, List.nil_append, hget]
    rfl

end Table

end TrafficWatch.Tracking
