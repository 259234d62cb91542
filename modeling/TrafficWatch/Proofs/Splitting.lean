/-!
Lists cut at a mark, and put together again with marks between them.
-/

namespace TrafficWatch

variable {α : Type} {a sep : α} {as : List α}

theorem mem_intersperse (h : a ∈ as) : a ∈ as.intersperse sep := by
  induction as with
  | nil => cases h
  | cons b as ih =>
    cases as with
    | nil => exact h
    | cons c as =>
      rw [List.intersperse_cons_cons]
      rcases List.mem_cons.mp h with rfl | h
      · exact List.mem_cons_self
      · exact List.mem_cons_of_mem _ (List.mem_cons_of_mem _ (ih h))

theorem eq_or_mem_of_mem_intersperse (h : a ∈ as.intersperse sep) : a = sep ∨ a ∈ as := by
  induction as with
  | nil => cases h
  | cons b as ih =>
    cases as with
    | nil => exact .inr h
    | cons c as =>
      rw [List.intersperse_cons_cons, List.mem_cons, List.mem_cons] at h
      rcases h with rfl | rfl | h
      · exact .inr List.mem_cons_self
      · exact .inl rfl
      · exact (ih h).imp_right (List.mem_cons_of_mem b)

theorem not_mem_of_mem_splitOn [DecidableEq α] {xs part : List α}
    (h : part ∈ xs.splitOn a) : a ∉ part := by
  induction xs generalizing part with
  | nil =>
    obtain rfl : part = [] := by simpa using h
    exact List.not_mem_nil
  | cons x xs ih =>
    rw [List.splitOn_cons_eq_if_modifyHead] at h
    split at h
    · rcases List.mem_cons.mp h with rfl | h
      · exact List.not_mem_nil
      · exact ih h
    · next hx =>
      cases hs : xs.splitOn a with
      | nil => exact absurd hs (List.splitOn_ne_nil a xs)
      | cons first rest =>
        rw [hs, List.modifyHead_cons] at h
        have hne : a ≠ x := fun heq => hx (by simp [heq])
        rcases List.mem_cons.mp h with rfl | h
        · simpa [hne] using ih (hs ▸ List.mem_cons_self)
        · exact ih (hs ▸ List.mem_cons_of_mem _ h)

end TrafficWatch
