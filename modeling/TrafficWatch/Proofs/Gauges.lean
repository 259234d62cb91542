import Mathlib
import TrafficWatch.Metrics.Gauges
import TrafficWatch.Proofs.Labelled

/-!
The gauges of the connection table. Rows are counted by kind, and the counts of kinds with the same
label are added up; either way a list of texts is tallied. The gauges outlive a scrape, yet nothing
is left in them of the views before the last one. They tell the counts of that view exactly if none
of its labels has the hash of another.
-/

namespace TrafficWatch.Metrics

open Tracking

/-- Each text that is in a list is counted, and no other. -/
structure Tallies (m : Std.ExtTreeMap String Nat) (xs : List String) : Prop where
  count : ∀ x, m.getD x 0 = xs.count x
  mem : ∀ x, x ∈ m ↔ x ∈ xs

variable {m : Std.ExtTreeMap String Nat} {xs : List String}

theorem Tallies.getElem? (h : Tallies m xs) (x : String) :
    m[x]? = if x ∈ xs then some (xs.count x) else none := by
  by_cases hx : x ∈ xs
  · rw [if_pos hx, ← h.count]
    exact Std.ExtTreeMap.getElem?_eq_some_getD ((h.mem x).mpr hx)
  · rw [if_neg hx]
    exact Std.ExtTreeMap.getElem?_eq_none fun hm => hx ((h.mem x).mp hm)

theorem nodup_toList (m : Std.ExtTreeMap String Nat) : m.toList.Nodup := by
  apply List.Nodup.of_map Prod.fst
  rw [Std.ExtTreeMap.map_fst_toList_eq_keys]
  exact Std.ExtTreeMap.nodup_keys

theorem Tallies.toList_perm (h : Tallies m xs) :
    m.toList.Perm (xs.dedup.map fun x => (x, xs.count x)) := by
  have hinjective : Function.Injective fun x : String => (x, xs.count x) :=
    fun _ _ heq => (Prod.mk.inj heq).1
  rw [List.perm_ext_iff_of_nodup (nodup_toList m) (xs.nodup_dedup.map hinjective)]
  rintro ⟨x, n⟩
  rw [Std.ExtTreeMap.mem_toList_iff_getElem?_eq_some, h.getElem?, List.mem_map]
  constructor
  · intro hx
    split at hx
    · next hmem =>
      cases hx
      exact ⟨x, List.mem_dedup.mpr hmem, rfl⟩
    · exact nomatch hx
  · rintro ⟨y, hy, heq⟩
    cases heq
    rw [if_pos (List.mem_dedup.mp hy)]

theorem addCount_getD (m : Std.ExtTreeMap String Nat) (label x : String) (n : Nat) :
    (addCount m label n).getD x 0 = m.getD x 0 + if label = x then n else 0 := by
  rw [addCount, Std.ExtTreeMap.getD_insert]
  by_cases hx : label = x
  · subst hx
    simp
  · simp [hx, Std.LawfulEqCmp.compare_eq_iff_eq]

theorem mem_addCount {m : Std.ExtTreeMap String Nat} {label x : String} {n : Nat} :
    x ∈ addCount m label n ↔ label = x ∨ x ∈ m := by
  rw [addCount, Std.ExtTreeMap.mem_insert, Std.LawfulEqCmp.compare_eq_iff_eq]

/-- Adding counts one after the other, each under a label of its own or of another. -/
theorem foldl_addCount {α : Type} (label : α → String) (n : α → Nat) (as : List α)
    (m : Std.ExtTreeMap String Nat) (x : String) :
    (as.foldl (fun m a => addCount m (label a) (n a)) m).getD x 0 =
        m.getD x 0 + ((as.filter (label · == x)).map n).sum ∧
      (x ∈ as.foldl (fun m a => addCount m (label a) (n a)) m ↔ x ∈ m ∨ x ∈ as.map label) := by
  induction as generalizing m with
  | nil => simp
  | cons a as ih =>
    obtain ⟨hcount, hmem⟩ := ih (addCount m (label a) (n a))
    rw [List.foldl_cons, hcount, hmem, addCount_getD, mem_addCount, List.map_cons, List.mem_cons,
      eq_comm (a := x), or_assoc, or_left_comm]
    refine ⟨?_, Iff.rfl⟩
    by_cases hx : label a = x
    · rw [List.filter_cons_of_pos (by simpa using hx), if_pos hx, List.map_cons, List.sum_cons]
      omega
    · rw [List.filter_cons_of_neg (by simpa using hx), if_neg hx]
      rfl

theorem tallies_countKinds (rows : List Row) :
    Tallies (View.countKinds rows) (rows.map (·.metadata.kind)) := by
  have hfold (x : String) := foldl_addCount (·.metadata.kind) (fun _ => 1) rows ∅ x
  constructor
  · intro x
    rw [List.count, List.countP_map, List.countP_eq_length_filter]
    refine (hfold x).1.trans ?_
    simp [Function.comp_def]
  · intro x
    refine (hfold x).2.trans ?_
    simp

/-- Counts of kinds add up to counts of labels. -/
theorem Tallies.labelCounts (h : Tallies m xs) : Tallies (labelCounts m) (xs.map typeLabel) := by
  have hfold (x : String) :=
    foldl_addCount (fun e : String × Nat => typeLabel e.1) (·.2) m.toList ∅ x
  constructor
  · intro x
    have hsum : ((m.toList.filter (typeLabel ·.1 == x)).map (·.2)).sum =
        ((xs.dedup.filter (typeLabel · == x)).map (xs.count ·)).sum := by
      rw [((h.toList_perm.filter _).map _).sum_nat, List.filter_map, List.map_map]
      rfl
    refine (hfold x).1.trans ?_
    rw [hsum, List.sum_map_count_dedup_filter_eq_countP, List.count, List.countP_map]
    simp [Function.comp_def]
  · intro x
    refine (hfold x).2.trans ?_
    rw [(h.toList_perm.map _).mem_iff, List.map_map]
    simp

namespace TableGauges

def states : List String := ["open", "closed"]

theorem states_apart : Apart states := by decide +kernel

/-- There are no gauges of connections in other states. -/
def TwoStates (g : TableGauges) : Prop := g.byState.Within states

theorem twoStates_new : ({} : TableGauges).TwoStates := LabelledGauges.within_new

section Update

variable {g : TableGauges} (h : g.TwoStates)

include h

theorem TwoStates.update (v : View) : (g.update v).TwoStates :=
  (LabelledGauges.Within.set h (by decide) v.openCount).set (by decide) v.closedCount

theorem TwoStates.run (vs : List View) : (vs.foldl TableGauges.update g).TwoStates := by
  induction vs generalizing g with
  | nil => exact h
  | cons v vs ih => exact ih (h.update v)

theorem TwoStates.byHash_update (v : View) : (g.update v).byState.byHash =
    (g.byState.byHash.insert (labelHash "open") ⟨"open", v.openCount⟩).insert (labelHash "closed")
      ⟨"closed", v.closedCount⟩ := by
  have hopen := LabelledGauges.Within.set h (List.mem_cons_self : "open" ∈ states) v.openCount
  refine (hopen.byHash_set states_apart (by decide) v.closedCount).trans ?_
  rw [LabelledGauges.Within.byHash_set h states_apart (by decide)]

/-- An update overwrites whatever an earlier one has set. -/
theorem TwoStates.update_eq (v : View) : g.update v = ({} : TableGauges).update v := by
  have hstates : (g.update v).byState.byHash = (({} : TableGauges).update v).byState.byHash := by
    rw [h.byHash_update, twoStates_new.byHash_update]
    apply Std.ExtTreeMap.ext_getElem?
    intro hash
    simp only [Std.ExtTreeMap.getElem?_insert, Std.LawfulEqCmp.compare_eq_iff_eq]
    by_cases hclosed : labelHash "closed" = hash
    · rw [if_pos hclosed, if_pos hclosed]
    by_cases hopen : labelHash "open" = hash
    · rw [if_neg hclosed, if_neg hclosed, if_pos hopen, if_pos hopen]
    have hnone : g.byState.byHash[hash]? = none := by
      rw [Option.eq_none_iff_forall_not_mem]
      intro gauge hgauge
      obtain ⟨hlabel, hhash⟩ := h hash gauge hgauge
      simp only [states, List.mem_cons, List.not_mem_nil, or_false] at hlabel
      obtain hlabel | hlabel := hlabel
      · exact hopen (hlabel ▸ hhash)
      · exact hclosed (hlabel ▸ hhash)
    rw [if_neg hclosed, if_neg hopen, if_neg hclosed, if_neg hopen, hnone]
    exact Std.ExtTreeMap.getElem?_empty.symm
  exact congrArg (fun states => { ({} : TableGauges).update v with byState := ⟨states⟩ }) hstates

end Update

end TableGauges

theorem typeLabel_empty : typeLabel "" = "unknown" := rfl

theorem typeLabel_of_ne {kind : String} (h : kind ≠ "") : typeLabel kind = kind := by
  simp [typeLabel, h]

theorem typeLabel_eq_unknown {kind : String} :
    typeLabel kind = "unknown" ↔ kind = "" ∨ kind = "unknown" := by
  by_cases h : kind = ""
  · simp [h, typeLabel_empty]
  · simp [h, typeLabel_of_ne h]

theorem typeLabel_eq_of_ne {kind label : String} (h : label ≠ "unknown") (hempty : label ≠ "") :
    typeLabel kind = label ↔ kind = label := by
  by_cases hkind : kind = ""
  · rw [hkind, typeLabel_empty]
    exact ⟨fun heq => absurd heq.symm h, fun heq => absurd heq.symm hempty⟩
  · rw [typeLabel_of_ne hkind]

theorem typeLabel_ne_empty (kind : String) : typeLabel kind ≠ "" := by
  by_cases hkind : kind = ""
  · rw [hkind]
    decide
  · rwa [typeLabel_of_ne hkind]

/-- Rows without a type are counted with those whose type is called unknown. -/
theorem countP_unknown (rows : List Row) :
    rows.countP (typeLabel ·.metadata.kind == "unknown") =
      rows.countP (·.metadata.kind == "") + rows.countP (·.metadata.kind == "unknown") := by
  induction rows with
  | nil => rfl
  | cons row rows ih =>
    rw [List.countP_cons, List.countP_cons, List.countP_cons, ih]
    by_cases hempty : row.metadata.kind = ""
    · simp [hempty, typeLabel_empty]
      omega
    · by_cases hunknown : row.metadata.kind = "unknown"
      · simp [hunknown, typeLabel]
        omega
      · simp [hempty, hunknown, typeLabel_eq_unknown]

/-- What the rows of a view are counted under. -/
def labelsOf (v : View) : List String := v.rows.map fun row => typeLabel row.metadata.kind

namespace TableGauges

/-- The gauges tell of one view. -/
structure Shows (g : TableGauges) (v : View) : Prop where
  /-- Of the labels that share a gauge the first one names it, and the rows with the last one are
  counted. -/
  shared : ∀ label n, (label, n) ∈ g.byType.readings ↔
    IsLeast (sharing (labelsOf v) label) label ∧ ∃ last,
      IsGreatest (sharing (labelsOf v) label) last ∧
        n = v.rows.countP (typeLabel ·.metadata.kind == last)
  byState : g.byState.readings = [("closed", v.closedCount), ("open", v.openCount)]
  total : v.openCount + v.closedCount = v.rows.length
  counters : g.totals = v.totals ∧ g.speed = v.totalSpeed ∧ g.streamRestarts = v.streamRestarts ∧
    g.revision = v.revision

/-- The gauges count the rows of one view by their types. -/
structure Counts (g : TableGauges) (v : View) : Prop where
  /-- There is one gauge for each label, and it counts the rows with that label. -/
  byType : g.byType.readings.Perm ((labelsOf v).dedup.map
    fun label => (label, v.rows.countP (typeLabel ·.metadata.kind == label)))
  /-- Rows without a type count together with those whose type is called unknown. -/
  unknown : ∀ n, ("unknown", n) ∈ g.byType.readings →
    n = v.rows.countP (·.metadata.kind == "") + v.rows.countP (·.metadata.kind == "unknown")
  nameless : ∀ n, ("", n) ∉ g.byType.readings
  named : ∀ kind n, kind ≠ "unknown" → (kind, n) ∈ g.byType.readings →
    n = v.rows.countP (·.metadata.kind == kind)
  sum : (g.byType.readings.map (·.2)).sum = v.openCount + v.closedCount

theorem tallies_labels (v : View) : Tallies (labelCounts v.kindCounts) (labelsOf v) := by
  have hlabels := (tallies_countKinds v.rows).labelCounts
  rwa [List.map_map] at hlabels

theorem count_labels (v : View) (label : String) :
    (labelsOf v).count label = v.rows.countP (typeLabel ·.metadata.kind == label) := by
  rw [labelsOf, List.count, List.countP_map]
  rfl

theorem byType_within (g : TableGauges) (v : View) : (g.update v).byType.Within (labelsOf v) :=
  LabelledGauges.within_setAll (tallies_labels v).mem g.byType

theorem shows_update (v : View) : (({} : TableGauges).update v).Shows v where
  shared label n := by
    have htallies := tallies_labels v
    refine (LabelledGauges.mem_readings_setAll htallies.mem {}).trans ?_
    have hcount {last : String} (hlast : IsGreatest (sharing (labelsOf v) label) last) :
        (labelCounts v.kindCounts)[last]? = some n ↔
          n = v.rows.countP (typeLabel ·.metadata.kind == last) := by
      rw [htallies.getElem?, if_pos hlast.1.1, count_labels, Option.some.injEq, eq_comm]
    refine and_congr_right fun _ => exists_congr fun last => ?_
    exact and_congr_right hcount
  byState := by cbv
  total := v.openCount_add_closedCount
  counters := ⟨rfl, rfl, rfl, rfl⟩

theorem readings_perm {v : View} (h : Apart (labelsOf v)) :
    (({} : TableGauges).update v).byType.readings.Perm ((labelsOf v).dedup.map
      fun label => (label, v.rows.countP (typeLabel ·.metadata.kind == label))) := by
  have htallies := tallies_labels v
  have hreadings : (({} : TableGauges).update v).byType.readings =
      (labelCounts v.kindCounts).toList :=
    LabelledGauges.readings_setAll_of_apart htallies.mem h {}
  rw [hreadings]
  simpa only [count_labels] using htallies.toList_perm

theorem counts_of_apart {v : View} (h : Apart (labelsOf v)) :
    (({} : TableGauges).update v).Counts v := by
  have hperm := readings_perm h
  have hvalue {label : String} {n : Nat}
      (hmem : (label, n) ∈ (({} : TableGauges).update v).byType.readings) :
      label ≠ "" ∧ n = v.rows.countP (typeLabel ·.metadata.kind == label) := by
    obtain ⟨label', hlabel, heq⟩ := List.mem_map.mp (hperm.mem_iff.mp hmem)
    cases heq
    obtain ⟨row, -, rfl⟩ := List.mem_map.mp (List.mem_dedup.mp hlabel)
    exact ⟨typeLabel_ne_empty _, rfl⟩
  exact {
    byType := hperm
    unknown := fun n hn => (hvalue hn).2.trans (countP_unknown v.rows)
    nameless := fun n hn => (hvalue hn).1 rfl
    named := by
      intro kind n hunknown hn
      obtain ⟨hempty, rfl⟩ := hvalue hn
      apply List.countP_congr
      intro row _
      rw [beq_iff_eq, beq_iff_eq, typeLabel_eq_of_ne hunknown hempty]
    sum := by
      have hsum := List.sum_map_count_dedup_eq_length (labelsOf v)
      simp only [count_labels] at hsum
      rw [(hperm.map _).sum_nat, List.map_map, v.openCount_add_closedCount]
      exact hsum.trans (List.length_map _) }

/-- A label without a gauge of its own is missing. -/
theorem apart_of_counts {g : TableGauges} {v : View} (h : (g.update v).Counts v) :
    Apart (labelsOf v) := by
  have hall {label : String} (hlabel : label ∈ labelsOf v) :
      ∃ n, (label, n) ∈ (g.update v).byType.readings :=
    ⟨_, h.byType.mem_iff.mpr (List.mem_map.mpr ⟨label, List.mem_dedup.mpr hlabel, rfl⟩)⟩
  intro a ha b hb heq
  obtain ⟨n, hn⟩ := hall ha
  obtain ⟨k, hk⟩ := hall hb
  exact (byType_within g v).eq_of_hash_eq hn hk heq

/-- However many views the gauges have been set from, and whichever these were: they are those of
the last view alone. They count its rows by type exactly if none of its labels has the hash of
another; labels with the same hash share one gauge. -/
theorem gauges_of_last_view (vs : List View) (v : View) :
    (vs ++ [v]).foldl TableGauges.update {} = ({} : TableGauges).update v ∧
      ((vs ++ [v]).foldl TableGauges.update {}).Shows v ∧
      (((vs ++ [v]).foldl TableGauges.update {}).Counts v ↔ Apart (labelsOf v)) := by
  have hlast : (vs ++ [v]).foldl TableGauges.update {} = ({} : TableGauges).update v := by
    rw [List.foldl_append]
    exact (twoStates_new.run vs).update_eq v
  rw [hlast]
  exact ⟨rfl, shows_update v, apart_of_counts, counts_of_apart⟩

def viewOf (kinds : List String) : View :=
  { rows := kinds.map fun kind => .opened "a" { metadata := { kind } } ⟨0, 0, 0⟩ }

/-- A type that has gone has no gauge any more, and a row without a type counts as of unknown type. -/
theorem gauges_of_mixed_views :
    let v := viewOf ["", "Socks5", "unknown"]
    let g := [viewOf ["HTTP"], v].foldl TableGauges.update {}
    g.byType.readings = [("Socks5", 1), ("unknown", 2)] ∧ g.Counts v := by
  intro v g
  obtain ⟨-, -, hcounts⟩ := gauges_of_last_view [viewOf ["HTTP"]] v
  exact ⟨by decide +kernel, hcounts.mpr (by decide +kernel)⟩

/-- Two types with the same hash: the gauge of the first one counts the rows of the second. -/
theorem gauge_of_two_types :
    let v := viewOf ["8yn0iYCKYHlIj4-BwPqk", "GReLUrM4wMqfg9yzV3KQ", "GReLUrM4wMqfg9yzV3KQ"]
    let g := ({} : TableGauges).update v
    g.byType.readings = [("8yn0iYCKYHlIj4-BwPqk", 2)] ∧ v.openCount + v.closedCount = 3 ∧
      ¬ g.Counts v := by
  intro v g
  refine ⟨by decide +kernel, by decide +kernel, fun h => ?_⟩
  exact absurd (apart_of_counts h) (by decide +kernel)

end TableGauges

end TrafficWatch.Metrics
