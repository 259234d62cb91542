import TrafficWatch.Text.Upper

/-!
Upper case makes no line ends: a text has them where it had them before.
-/

namespace TrafficWatch.Text

/-- No character that moves comes to lie among the first ones. -/
def FarShifts (row : String) : Prop :=
  ∀ w ∈ words row, (! w.isEmpty) = true → 10 < (CaseShift.ofWord w).first + (CaseShift.ofWord w).offset

/-- No character is expanded to a line feed. -/
def FeedFree (row : String) : Prop := ∀ w ∈ words row, 10 ∉ (expansionOfWord w).2

theorem farShifts_ofList (cs : List Char)
    (h : (cs.splitOn ' ').all (fun w => w.isEmpty ||
      decide (10 < (CaseShift.ofWord w).first + (CaseShift.ofWord w).offset)) = true) :
    FarShifts (String.ofList cs) := by
  intro w hw hne
  rw [words, String.toList_ofList] at hw
  have hw' := List.all_eq_true.mp h w hw
  simp_all

theorem feedFree_ofList (cs : List Char)
    (h : (cs.splitOn ' ').all (fun w => ! (expansionOfWord w).2.contains 10) = true) :
    FeedFree (String.ofList cs) := by
  intro w hw
  rw [words, String.toList_ofList] at hw
  have hw' := List.all_eq_true.mp h w hw
  simpa using hw'

theorem upperShifts_far : ∀ s ∈ upperShifts, 10 < s.first + s.offset := by
  intro s hs
  unfold upperShifts CaseShift.ofLines at hs
  obtain ⟨w, hw, rfl⟩ := List.mem_map.mp (List.mem_toArray.mp hs)
  obtain ⟨hw, hne⟩ := List.mem_filter.mp hw
  obtain ⟨row, hrow, hw⟩ := List.mem_flatMap.mp hw
  refine (?_ : ∀ row ∈ _, FarShifts row) row hrow w hw hne
  -- a row as a list of characters is soon evaluated, a row as a string is not
  repeat refine List.forall_mem_cons.mpr ⟨farShifts_ofList _ (by decide +kernel), ?_⟩
  exact nofun

theorem upperExpansions_feedFree : ∀ x ∈ upperExpansions, 10 ∉ x.2 := by
  intro x hx
  unfold upperExpansions at hx
  obtain ⟨w, hw, rfl⟩ := List.mem_map.mp (List.mem_toArray.mp hx)
  obtain ⟨row, hrow, hw⟩ := List.mem_flatMap.mp hw
  refine (?_ : ∀ row ∈ _, FeedFree row) row hrow w hw
  repeat refine List.forall_mem_cons.mpr ⟨feedFree_ofList _ (by decide +kernel), ?_⟩
  exact nofun

theorem eq_ten_of_ofNat {n : Nat} (h : Char.ofNat n = '\n') : n = 10 := by
  by_cases hn : n.isValidChar
  · rw [Char.ofNat, dif_pos hn] at h
    exact congrArg Char.toNat h
  · rw [Char.ofNat, dif_neg hn] at h
    exact absurd h (by decide)

theorem eq_of_mem_upperChar {c : Char} (h : '\n' ∈ upperChar c) : c = '\n' := by
  by_cases hascii : c.toNat < 0x80
  -- these have a mapping of their own, and are few enough to be looked at one by one
  · have hall : ∀ n < 0x80, '\n' = (Char.ofNat n).toUpper → '\n' = Char.ofNat n := by decide
    have heq := hall c.toNat hascii
    rw [upperChar, if_pos hascii] at h
    rw [Char.ofNat_toNat] at heq
    exact (heq (List.mem_singleton.mp h)).symm
  rw [upperChar, if_neg hascii] at h
  cases hexpansion : upperExpansions.find? (·.1 == c.toNat) with
  | some x =>
    rw [hexpansion] at h
    obtain ⟨n, hn, heq⟩ := List.mem_map.mp h
    rw [eq_ten_of_ofNat heq] at hn
    exact absurd hn (upperExpansions_feedFree x (Array.mem_of_find?_eq_some hexpansion))
  | none =>
    rw [hexpansion] at h
    cases hshift : upperShifts.find? (·.covers c.toNat) with
    | some s =>
      rw [hshift] at h
      have hfar := upperShifts_far s (Array.mem_of_find?_eq_some hshift)
      have hcovers := Array.find?_some hshift
      simp only [CaseShift.covers, Bool.and_eq_true, decide_eq_true_eq] at hcovers
      have hten := eq_ten_of_ofNat (List.mem_singleton.mp h).symm
      omega
    | none =>
      rw [hshift] at h
      exact (List.mem_singleton.mp h).symm

/-- A text without line feeds has none in upper case. -/
theorem mem_upper {s : String} (h : '\n' ∈ (upper s).toList) : '\n' ∈ s.toList := by
  rw [upper, String.toList_ofList] at h
  obtain ⟨c, hc, hmem⟩ := List.mem_flatMap.mp h
  rwa [eq_of_mem_upperChar hmem] at hc

end TrafficWatch.Text
