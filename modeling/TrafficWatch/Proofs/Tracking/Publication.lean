import TrafficWatch.Proofs.Tracking.Retention

/-!
What a store publishes. Every operation publishes what it leaves, once and as a whole, under the
next revision; only a clearing that finds no closed row leaves everything as it is. So a revision
stands for one view.
-/

namespace TrafficWatch.Tracking

open Files

namespace Store

/-- What operations may make of a store, with whatever files there are at each of them. -/
inductive Leads (s : Store) : Store → Prop where
  | refl : Leads s s
  | step {s' : Store} (h : Leads s s') (d : Disk) (op : Op) : Leads s (step d s' op).1.2

/-- The store has sent one view, and it is that of the store as it is afterwards. -/
structure Publishes (s s' : Store) : Prop where
  revision : s'.revision = s.revision + 1
  published : s'.published = s.published.send s'.current

variable {s s' : Store}

theorem Leads.trans {s'' : Store} (h : s.Leads s') (h' : s'.Leads s'') : s.Leads s'' := by
  induction h' with
  | refl => exact h
  | step h' d op ih => exact ih.step d op

theorem Leads.keeps {I : Store → Prop} (hI : ∀ s d op, I s → I (Store.step d s op).1.2)
    (h : s.Leads s') (hs : I s) : I s' := by
  induction h with
  | refl => exact hs
  | step h d op ih => exact hI _ d op ih

/-- The count of a clearing says whether it has published. -/
theorem clearClosed_publishes (s : Store) :
    (s.clearClosed.2 = 0 → s.clearClosed.1 = s) ∧
      (s.clearClosed.2 ≠ 0 → s.Publishes s.clearClosed.1) := by
  unfold clearClosed
  by_cases hc : 0 < s.table.evictCompleted.2
  · simp only [hc, ↓reduceIte]
    exact ⟨fun h => absurd h (Nat.ne_of_gt hc), fun _ => ⟨rfl, rfl⟩⟩
  · simp [hc]

/-- A clearing of nothing changes nothing; anything else publishes. -/
theorem step_publishes (d : Disk) (s : Store) (op : Op) :
    ((step d s op).2 = .cleared 0 → (step d s op).1 = (d, s)) ∧
      ((step d s op).2 ≠ .cleared 0 → s.Publishes (step d s op).1.2) := by
  cases op with
  | feed snapshot now ms => exact ⟨Result.noConfusion, fun _ => ⟨rfl, rfl⟩⟩
  | toggle => exact ⟨Result.noConfusion, fun _ => ⟨rfl, rfl⟩⟩
  | setRetention keep => exact ⟨Result.noConfusion, fun _ => ⟨rfl, rfl⟩⟩
  | restart => exact ⟨Result.noConfusion, fun _ => ⟨rfl, rfl⟩⟩
  | clearClosed =>
    obtain ⟨hnothing, hsome⟩ := s.clearClosed_publishes
    have hcount : (step d s .clearClosed).2 = .cleared s.clearClosed.2 := rfl
    rw [hcount]
    exact ⟨fun h => congrArg (d, ·) (hnothing (Result.cleared.inj h)),
      fun h => hsome fun hc => h (congrArg Result.cleared hc)⟩

theorem step_revision (d : Disk) (s : Store) (op : Op) :
    s.revision ≤ (step d s op).1.2.revision ∧
      ((step d s op).1.2.revision = s.revision → (step d s op).1.2 = s) := by
  obtain ⟨hnothing, hsome⟩ := step_publishes d s op
  by_cases hc : (step d s op).2 = .cleared 0
  · rw [hnothing hc]
    exact ⟨Nat.le_refl _, fun _ => rfl⟩
  · have hr := (hsome hc).revision
    exact ⟨by omega, fun h => by omega⟩

/-- Revisions only grow, and while one lasts nothing changes. -/
theorem Leads.revision (h : s.Leads s') :
    s.revision ≤ s'.revision ∧ (s'.revision = s.revision → s' = s) := by
  induction h with
  | refl => exact ⟨Nat.le_refl _, fun _ => rfl⟩
  | @step s' h d op ih =>
    obtain ⟨hle, hsame⟩ := step_revision d s' op
    refine ⟨Nat.le_trans ih.1 hle, fun hr => ?_⟩
    have hback : s'.revision = s.revision := by omega
    rw [hsame (hr.trans hback.symm), ih.2 hback]

theorem Tidy.revision_view (h : s.Tidy) : s.view.revision = s.revision := by
  rw [h.shown]
  rfl

theorem Leads.view_eq (h : s.Leads s') (hs : s.Tidy)
    (hr : s'.view.revision = s.view.revision) : s'.view = s.view := by
  have hs' := h.keeps (fun _ d op ht => ht.step d op) hs
  rw [hs.revision_view, hs'.revision_view] at hr
  rw [h.revision.2 hr]

end Store

end TrafficWatch.Tracking
