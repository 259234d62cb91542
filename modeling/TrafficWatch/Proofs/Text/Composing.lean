import TrafficWatch.Text.Composition

/-!
A colon stands alone in every text: it takes part in no composition, and so it is still there when
the text has been composed.
-/

namespace TrafficWatch.Text

/-- No composition in a row of the table is of a colon, or with one. -/
def ColonFree (row : String) : Prop :=
  ∀ w ∈ words row, ∀ x ∈ compositionsOfWord w, x.1 ≠ 58 ∧ x.2.1 ≠ 58 ∧ x.2.2 ≠ 58

theorem colonFree_ofList (cs : List Char)
    (h : ((cs.splitOn ' ').flatMap compositionsOfWord).all
      (fun x => x.1 != 58 && (x.2.1 != 58 && x.2.2 != 58)) = true) :
    ColonFree (String.ofList cs) := by
  intro w hw x hx
  rw [words, String.toList_ofList] at hw
  have hx' := List.all_eq_true.mp h x (List.mem_flatMap.mpr ⟨w, hw, hx⟩)
  simpa using hx'

theorem forall_colonFree_cons {row : String} {rows : List String} (h : ColonFree row)
    (hs : ∀ r ∈ rows, ColonFree r) : ∀ r ∈ row :: rows, ColonFree r :=
  List.forall_mem_cons.mpr ⟨h, hs⟩

theorem compositions_ne_colon : ∀ x ∈ compositions, x.1 ≠ 58 ∧ x.2.1 ≠ 58 ∧ x.2.2 ≠ 58 := by
  intro x hx
  unfold compositions at hx
  obtain ⟨w, hw, hx⟩ := List.mem_flatMap.mp (List.mem_toArray.mp hx)
  obtain ⟨row, hrow, hw⟩ := List.mem_flatMap.mp hw
  refine (?_ : ∀ row ∈ _, ColonFree row) row hrow w hw x hx
  -- a row as a list of characters is soon evaluated, a row as a string is not
  repeat refine forall_colonFree_cons (colonFree_ofList _ (by decide +kernel)) ?_
  exact nofun

theorem split?_colon : split? ':' = none := by
  have hfind : compositions.find? (·.2.2 == 58) = none :=
    Array.find?_eq_none.mpr fun x hx => by simpa using (compositions_ne_colon x hx).2.2
  have hnat : ':'.toNat = 58 := rfl
  simp [split?, isSyllable, hnat, hfind]

theorem join?_colon_left (c : Char) : join? ':' c = none := by
  have hnat : ':'.toNat = 58 := rfl
  unfold join?
  dsimp only
  rw [if_neg (by simp [hnat]), if_neg (by simp [hnat, isSyllable]), Option.map_eq_none_iff,
    Array.find?_eq_none]
  intro x hx
  simp [hnat, (compositions_ne_colon x hx).1]

theorem join?_colon_right (c : Char) : join? c ':' = none := by
  have hnat : ':'.toNat = 58 := rfl
  unfold join?
  dsimp only
  rw [if_neg (by simp [hnat]), if_neg (by simp [hnat]), Option.map_eq_none_iff,
    Array.find?_eq_none]
  intro x hx
  simp [hnat, (compositions_ne_colon x hx).2.1]

theorem expand_colon (fuel : Nat) : expand fuel ':' = [':'] := by
  cases fuel with
  | zero => rfl
  | succ fuel => rw [expand, split?_colon]

theorem mem_orderMarks {c : Char} (fuel : Nat) {cs : List Char} (h : c ∈ cs) :
    c ∈ orderMarks fuel cs := by
  induction fuel generalizing cs with
  | zero => exact h
  | succ fuel ih =>
    cases cs with
    | nil => cases h
    | cons a cs =>
      rw [orderMarks]
      split
      · rcases List.mem_cons.mp h with rfl | h
        · exact List.mem_cons_self
        · exact List.mem_cons_of_mem _ (ih h)
      · have hsplit := List.prefix_iff_eq_append.mp
          (List.takeWhile_prefix (l := a :: cs) (markClass · != 0))
        rw [← hsplit, List.mem_append] at h
        rw [List.mem_append, List.mem_mergeSort]
        exact h.imp_right ih

theorem Joint.colon_mem_add {j : Joint} {c : Char} (h : ':' ∈ j.text ∨ c = ':') :
    ':' ∈ (j.add c).text := by
  unfold Joint.add
  dsimp only
  split
  · next d hd =>
    split at hd
    · obtain ⟨s, hs, hjoin⟩ := Option.bind_eq_some_iff.mp hd
      have hc : c ≠ ':' := by
        rintro rfl
        rw [join?_colon_right] at hjoin
        cases hjoin
      have hs' : s ≠ ':' := by
        rintro rfl
        rw [join?_colon_left] at hjoin
        cases hjoin
      have hold : ':' ∈ j.done ∨ ':' ∈ j.marks := by
        simpa [Joint.text, hs, Ne.symm hs', hc] using h
      simpa [Joint.text] using hold.imp_right .inr
    · cases hd
  · split
    · simpa [Joint.text, or_assoc, eq_comm] using h
    · simpa [Joint.text, or_assoc, eq_comm] using h

theorem Joint.colon_mem_foldl {cs : List Char} {j : Joint} (h : ':' ∈ j.text ∨ ':' ∈ cs) :
    ':' ∈ (cs.foldl Joint.add j).text := by
  induction cs generalizing j with
  | nil => simpa using h
  | cons c cs ih =>
    refine ih ?_
    rcases h with h | h
    · exact .inl (Joint.colon_mem_add (.inl h))
    · exact (List.mem_cons.mp h).imp_left fun hc => Joint.colon_mem_add (.inr hc.symm)

theorem colon_mem_compose {cs : List Char} (h : ':' ∈ cs) : ':' ∈ compose cs := by
  have hexpand : ':' ∈ cs.flatMap (expand 4) :=
    List.mem_flatMap.mpr ⟨':', h, by rw [expand_colon]; exact List.mem_singleton_self _⟩
  exact Joint.colon_mem_foldl (.inr (mem_orderMarks _ hexpand))

end TrafficWatch.Text
