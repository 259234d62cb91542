import Mathlib.Data.String.Basic
import Mathlib.Order.Bounds.Basic
import TrafficWatch.Metrics.Labelled

/-!
Gauges found by a hash of their labels. Of the labels with the same hash the first one to be set names
their gauge and the last one leaves its value there. Among labels whose hashes are all different, a
gauge is found as if by its label.
-/

namespace TrafficWatch.Metrics

/-- No two of the labels have the same hash. -/
def Apart (labels : List String) : Prop :=
  ∀ a ∈ labels, ∀ b ∈ labels, labelHash a = labelHash b → a = b

instance (labels : List String) : Decidable (Apart labels) :=
  inferInstanceAs (Decidable (∀ a ∈ labels, ∀ b ∈ labels, labelHash a = labelHash b → a = b))

/-- The labels that share a gauge with this one. -/
def sharing (labels : List String) (label : String) : Set String :=
  {other | other ∈ labels ∧ labelHash other = labelHash label}

namespace LabelledGauges

variable {g : LabelledGauges} {labels : List String} {label : String} {n : Nat} {hash : UInt64}

/-- Each gauge has one of the labels, and is kept under the hash of its own. -/
def Within (g : LabelledGauges) (labels : List String) : Prop :=
  ∀ hash gauge, g.byHash[hash]? = some gauge → gauge.label ∈ labels ∧ labelHash gauge.label = hash

theorem getElem?_set (g : LabelledGauges) (label : String) (n : Nat) (hash : UInt64) :
    (g.set label n).byHash[hash]? =
      if labelHash label = hash then some ⟨(g.byHash[hash]?).elim label (·.label), n⟩
      else g.byHash[hash]? := by
  simp only [set, Std.ExtTreeMap.getElem?_insert, Std.LawfulEqCmp.compare_eq_iff_eq]
  by_cases h : labelHash label = hash
  · rw [if_pos h, if_pos h, h]
  · rw [if_neg h, if_neg h]

theorem within_new : ({} : LabelledGauges).Within labels := by
  intro hash gauge hgauge
  exact nomatch Std.ExtTreeMap.getElem?_empty.symm.trans hgauge

theorem Within.set (h : g.Within labels) (hlabel : label ∈ labels) (n : Nat) :
    (g.set label n).Within labels := by
  intro hash gauge hgauge
  rw [getElem?_set] at hgauge
  by_cases hhash : labelHash label = hash
  · rw [if_pos hhash] at hgauge
    obtain rfl := Option.some.inj hgauge
    cases hfound : g.byHash[hash]? with
    | none => exact ⟨hlabel, hhash⟩
    | some gauge => exact h hash gauge hfound
  · rw [if_neg hhash] at hgauge
    exact h hash gauge hgauge

theorem Within.setAll {counts : List (String × Nat)} (h : g.Within labels)
    (hcounts : ∀ c ∈ counts, c.1 ∈ labels) : (g.setAll counts).Within labels := by
  induction counts generalizing g with
  | nil => exact h
  | cons c counts ih =>
    rw [List.forall_mem_cons] at hcounts
    exact ih (h.set hcounts.1 c.2) hcounts.2

/-- No other label is in the way. -/
theorem Within.byHash_set (h : g.Within labels) (hapart : Apart labels) (hlabel : label ∈ labels)
    (n : Nat) : (g.set label n).byHash = g.byHash.insert (labelHash label) ⟨label, n⟩ := by
  have hown : (g.byHash[labelHash label]?).elim label (·.label) = label := by
    cases hfound : g.byHash[labelHash label]? with
    | none => rfl
    | some gauge =>
      obtain ⟨hgauge, hhash⟩ := h _ gauge hfound
      exact hapart _ hgauge _ hlabel hhash
  rw [LabelledGauges.set, hown]

/-- The first label to be set names the gauge. -/
theorem label_setAll (g : LabelledGauges) (counts : List (String × Nat)) (hash : UInt64) :
    ((g.setAll counts).byHash[hash]?).map (·.label) =
      ((g.byHash[hash]?).map (·.label)).or
        ((counts.find? (labelHash ·.1 == hash)).map Prod.fst) := by
  induction counts generalizing g with
  | nil => exact Option.or_none.symm
  | cons c counts ih =>
    refine (ih (g.set c.1 c.2)).trans ?_
    rw [getElem?_set]
    by_cases hhash : labelHash c.1 = hash
    · rw [if_pos hhash, List.find?_cons_of_pos (by simpa using hhash)]
      cases g.byHash[hash]? <;> rfl
    · rw [if_neg hhash, List.find?_cons_of_neg (by simpa using hhash)]

/-- The last one leaves its value. -/
theorem value_setAll (g : LabelledGauges) (counts : List (String × Nat)) (hash : UInt64) :
    ((g.setAll counts).byHash[hash]?).map (·.value) =
      ((counts.reverse.find? (labelHash ·.1 == hash)).map Prod.snd).or
        ((g.byHash[hash]?).map (·.value)) := by
  induction counts generalizing g with
  | nil => rfl
  | cons c counts ih =>
    refine (ih (g.set c.1 c.2)).trans ?_
    rw [getElem?_set, List.reverse_cons, List.find?_append, Option.map_or, Option.or_assoc]
    congr 1
    by_cases hhash : labelHash c.1 = hash
    · rw [if_pos hhash, List.find?_cons_of_pos (by simpa using hhash)]
      rfl
    · rw [if_neg hhash, List.find?_cons_of_neg (by simpa using hhash)]
      rfl

theorem mem_toList_ofList {entries : List (String × Nat)}
    (h : entries.Pairwise fun a b => ¬ compare a.1 b.1 = .eq) :
    (label, n) ∈ (Std.ExtTreeMap.ofList entries compare).toList ↔ (label, n) ∈ entries := by
  have hfound {n : Nat} (hmem : (label, n) ∈ entries) :
      (Std.ExtTreeMap.ofList entries compare)[label]? = some n :=
    Std.ExtTreeMap.getElem?_ofList_of_mem Std.ReflCmp.compare_self h hmem
  rw [Std.ExtTreeMap.mem_toList_iff_getElem?_eq_some]
  refine ⟨fun hn => ?_, hfound⟩
  have hlabel : label ∈ Std.ExtTreeMap.ofList entries compare :=
    Std.ExtTreeMap.mem_iff_isSome_getElem?.mpr (Option.isSome_of_eq_some hn)
  rw [Std.ExtTreeMap.mem_ofList, List.contains_iff_mem, List.mem_map] at hlabel
  obtain ⟨⟨_, n'⟩, hmem, rfl⟩ := hlabel
  rwa [Option.some.inj (hn.symm.trans (hfound hmem))]

theorem mem_readings (h : g.Within labels) :
    (label, n) ∈ g.readings ↔ g.byHash[labelHash label]? = some ⟨label, n⟩ := by
  have hown {e : UInt64 × LabelledGauge} (he : e ∈ g.byHash.toList) : labelHash e.2.label = e.1 :=
    (h e.1 e.2 (Std.ExtTreeMap.mem_toList_iff_getElem?_eq_some.mp he)).2
  have hdistinct : (g.byHash.toList.map fun e => (e.2.label, e.2.value)).Pairwise
      fun a b => ¬ compare a.1 b.1 = .eq := by
    rw [List.pairwise_map]
    refine Std.ExtTreeMap.distinct_keys_toList.imp_of_mem fun {a b} ha hb hne heq => hne ?_
    rw [Std.LawfulEqCmp.compare_eq_iff_eq] at heq ⊢
    calc a.1 = labelHash a.2.label := (hown ha).symm
      _ = labelHash b.2.label := congrArg labelHash heq
      _ = b.1 := hown hb
  refine (mem_toList_ofList hdistinct).trans ?_
  rw [List.mem_map]
  constructor
  · rintro ⟨⟨hash, gauge⟩, hmem, heq⟩
    cases heq
    rw [hown hmem]
    exact Std.ExtTreeMap.mem_toList_iff_getElem?_eq_some.mp hmem
  · intro hfound
    exact ⟨_, Std.ExtTreeMap.mem_toList_iff_getElem?_eq_some.mpr hfound, rfl⟩

/-- In a list in order, the first element that is looked for comes before the others. -/
theorem find?_eq_some_iff_first {α : Type} {r : α → α → Prop} [Std.Asymm r] {as : List α} {x : α}
    {p : α → Bool} (h : as.Pairwise r) :
    as.find? p = some x ↔ x ∈ as ∧ p x = true ∧ ∀ b ∈ as, p b = true → b = x ∨ r x b := by
  induction as with
  | nil => simp
  | cons a as ih =>
    obtain ⟨hfirst, has⟩ := List.pairwise_cons.mp h
    by_cases hp : p a = true
    · rw [List.find?_cons_of_pos hp, Option.some.injEq]
      constructor
      · rintro rfl
        exact ⟨List.mem_cons_self, hp, fun b hb _ =>
          (List.mem_cons.mp hb).imp_right (hfirst b)⟩
      · rintro ⟨hx, -, hleast⟩
        obtain rfl | hx := List.mem_cons.mp hx
        · rfl
        · exact (hleast a List.mem_cons_self hp).elim id fun hless =>
            absurd hless (Std.Asymm.asymm _ _ (hfirst x hx))
    · rw [List.find?_cons_of_neg hp, ih has, List.mem_cons]
      have hne (hx : p x = true) : x ≠ a := fun heq => hp (heq ▸ hx)
      simp only [List.forall_mem_cons]
      constructor
      · rintro ⟨hx, hpx, hleast⟩
        exact ⟨.inr hx, hpx, fun hpa => absurd hpa hp, hleast⟩
      · rintro ⟨hx, hpx, -, hleast⟩
        exact ⟨hx.resolve_left (hne hpx), hpx, hleast⟩

/-- Two labels that have a gauge each do not share it. -/
theorem Within.eq_of_hash_eq (h : g.Within labels) {a b : String} {k : Nat}
    (ha : (a, n) ∈ g.readings) (hb : (b, k) ∈ g.readings) (heq : labelHash a = labelHash b) :
    a = b := by
  rw [mem_readings h] at ha hb
  rw [heq, hb] at ha
  exact (congrArg LabelledGauge.label (Option.some.inj ha)).symm

section Counts

variable {m : Std.ExtTreeMap String Nat} {x : String} {k : Nat} (hlabels : ∀ x, x ∈ m ↔ x ∈ labels)

include hlabels

theorem mem_labels (h : m[x]? = some k) : x ∈ labels :=
  (hlabels x).mp (Std.ExtTreeMap.mem_iff_isSome_getElem?.mpr (Option.isSome_of_eq_some h))

theorem exists_count (h : x ∈ labels) : ∃ k, m[x]? = some k :=
  Option.isSome_iff_exists.mp (Std.ExtTreeMap.mem_iff_isSome_getElem?.mp ((hlabels x).mpr h))

theorem find?_sharing {r : String → String → Prop} [Std.Asymm r] {entries : List (String × Nat)}
    (hentries : ∀ e, e ∈ entries ↔ m[e.1]? = some e.2)
    (hsorted : entries.Pairwise fun a b => r a.1 b.1) :
    entries.find? (labelHash ·.1 == labelHash label) = some (x, k) ↔
      x ∈ sharing labels label ∧ (∀ other ∈ sharing labels label, other = x ∨ r x other) ∧
        m[x]? = some k := by
  have hasymm : Std.Asymm fun a b : String × Nat => r a.1 b.1 :=
    ⟨fun a b => Std.Asymm.asymm a.1 b.1⟩
  rw [find?_eq_some_iff_first hsorted]
  constructor
  · rintro ⟨hx, hhash, hfirst⟩
    have hx := (hentries _).mp hx
    refine ⟨⟨mem_labels hlabels hx, beq_iff_eq.mp hhash⟩, ?_, hx⟩
    rintro other ⟨hother, heq⟩
    obtain ⟨k', hk'⟩ := exists_count hlabels hother
    exact (hfirst (other, k') ((hentries _).mpr hk') (beq_iff_eq.mpr heq)).imp_left
      (congrArg Prod.fst)
  · rintro ⟨⟨-, hhash⟩, hfirst, hx⟩
    refine ⟨(hentries _).mpr hx, beq_iff_eq.mpr hhash, fun e he heq => ?_⟩
    have he := (hentries e).mp he
    refine (hfirst e.1 ⟨mem_labels hlabels he, beq_iff_eq.mp heq⟩).imp_left fun hlabel => ?_
    rw [hlabel, hx] at he
    exact Prod.ext hlabel (Option.some.inj he).symm

theorem find?_first : m.toList.find? (labelHash ·.1 == labelHash label) = some (x, k) ↔
    IsLeast (sharing labels label) x ∧ m[x]? = some k := by
  have hsorted : m.toList.Pairwise fun a b => a.1 < b.1 :=
    Std.ExtTreeMap.ordered_keys_toList.imp compare_lt_iff_lt.mp
  rw [find?_sharing hlabels (fun _ => Std.ExtTreeMap.mem_toList_iff_getElem?_eq_some) hsorted,
    IsLeast, mem_lowerBounds, and_assoc]
  simp only [le_iff_eq_or_lt, eq_comm (a := x)]

theorem find?_last : m.toList.reverse.find? (labelHash ·.1 == labelHash label) = some (x, k) ↔
    IsGreatest (sharing labels label) x ∧ m[x]? = some k := by
  have hsorted : m.toList.reverse.Pairwise fun a b => a.1 > b.1 :=
    List.pairwise_reverse.mpr (Std.ExtTreeMap.ordered_keys_toList.imp compare_lt_iff_lt.mp)
  have hentries (e : String × Nat) : e ∈ m.toList.reverse ↔ m[e.1]? = some e.2 :=
    List.mem_reverse.trans Std.ExtTreeMap.mem_toList_iff_getElem?_eq_some
  rw [find?_sharing hlabels hentries hsorted, IsGreatest, mem_upperBounds, and_assoc]
  simp only [le_iff_eq_or_lt, gt_iff_lt]

theorem within_setAll (g : LabelledGauges) : (g.reset.setAll m.toList).Within labels := by
  apply within_new.setAll
  intro c hc
  exact mem_labels hlabels (Std.ExtTreeMap.mem_toList_iff_getElem?_eq_some.mp hc)

/-- After a reset a gauge is named by the first of the labels that share it, and has the value of
the last. -/
theorem mem_readings_setAll (g : LabelledGauges) :
    (label, n) ∈ (g.reset.setAll m.toList).readings ↔
      IsLeast (sharing labels label) label ∧
        ∃ last, IsGreatest (sharing labels label) last ∧ m[last]? = some n := by
  have hnone : g.reset.byHash[labelHash label]? = none := Std.ExtTreeMap.getElem?_empty
  have hlabel := label_setAll g.reset m.toList (labelHash label)
  have hvalue := value_setAll g.reset m.toList (labelHash label)
  rw [hnone, Option.map_none] at hlabel hvalue
  have hparts : (g.reset.setAll m.toList).byHash[labelHash label]? = some ⟨label, n⟩ ↔
      ((g.reset.setAll m.toList).byHash[labelHash label]?).map (·.label) = some label ∧
        ((g.reset.setAll m.toList).byHash[labelHash label]?).map (·.value) = some n := by
    cases (g.reset.setAll m.toList).byHash[labelHash label]? with
    | none => simp
    | some gauge => cases gauge; simp
  rw [mem_readings (within_setAll hlabels g), hparts, hlabel, hvalue, Option.none_or,
    Option.or_none, Option.map_eq_some_iff, Option.map_eq_some_iff]
  constructor
  · rintro ⟨⟨⟨first, k⟩, hfirst, rfl⟩, ⟨last, n⟩, hlast, rfl⟩
    exact ⟨((find?_first hlabels).mp hfirst).1, last, (find?_last hlabels).mp hlast⟩
  · rintro ⟨hfirst, last, hlast, hn⟩
    obtain ⟨k, hk⟩ := exists_count hlabels hfirst.1.1
    exact ⟨⟨(label, k), (find?_first hlabels).mpr ⟨hfirst, hk⟩, rfl⟩,
      (last, n), (find?_last hlabels).mpr ⟨hlast, hn⟩, rfl⟩

/-- Among labels that are apart the gauges tell the counts. -/
theorem readings_setAll_of_apart (hapart : Apart labels) (g : LabelledGauges) :
    (g.reset.setAll m.toList).readings = m.toList := by
  have hmem (label : String) (n : Nat) :
      (label, n) ∈ (g.reset.setAll m.toList).readings ↔ m[label]? = some n := by
    rw [mem_readings_setAll hlabels]
    constructor
    · rintro ⟨hfirst, last, hlast, hn⟩
      rwa [hapart last hlast.1.1 label hfirst.1.1 hlast.1.2] at hn
    · intro hn
      have hlabel := mem_labels hlabels hn
      have honly : sharing labels label = {label} := by
        ext other
        constructor
        · rintro ⟨hother, heq⟩
          exact hapart other hother label hlabel heq
        · rintro rfl
          exact ⟨hlabel, rfl⟩
      rw [honly]
      exact ⟨isLeast_singleton, label, isGreatest_singleton, hn⟩
  apply congrArg Std.ExtTreeMap.toList
  refine Std.ExtTreeMap.ext_getElem? fun {x} => Option.ext fun n => ?_
  rw [← hmem, readings, Std.ExtTreeMap.mem_toList_iff_getElem?_eq_some]

end Counts

end LabelledGauges

end TrafficWatch.Metrics
