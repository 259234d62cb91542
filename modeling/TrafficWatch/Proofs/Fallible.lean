import Mathlib.Data.List.Forall2

/-!
What a fallible computation went through, given what it returned.
-/

namespace TrafficWatch

variable {ε ε' α β : Type}

theorem bind_eq_ok {x : Except ε α} {f : α → Except ε β} {b : β} :
    (x >>= f) = .ok b ↔ ∃ a, x = .ok a ∧ f a = .ok b := by
  cases x with
  | error e => exact ⟨nofun, nofun⟩
  | ok a => exact ⟨fun h => ⟨a, rfl, h⟩, by rintro ⟨_, ⟨⟩, h⟩; exact h⟩

theorem map_eq_ok {x : Except ε α} {f : α → β} {b : β} :
    x.map f = .ok b ↔ ∃ a, x = .ok a ∧ f a = b := by
  cases x with
  | error e => exact ⟨nofun, nofun⟩
  | ok a => exact ⟨fun h => ⟨a, rfl, Except.ok.inj h⟩, by rintro ⟨_, ⟨⟩, rfl⟩; rfl⟩

theorem mapError_eq_ok {x : Except ε α} {f : ε → ε'} {a : α} :
    x.mapError f = .ok a ↔ x = .ok a := by
  cases x with
  | error e => exact ⟨nofun, nofun⟩
  | ok b => exact ⟨fun h => congrArg _ (Except.ok.inj h), fun h => congrArg _ (Except.ok.inj h)⟩

theorem mapM_eq_ok {f : α → Except ε β} {as : List α} {bs : List β} :
    as.mapM f = .ok bs ↔ List.Forall₂ (fun a b => f a = .ok b) as bs := by
  induction as generalizing bs with
  | nil =>
    rw [List.mapM_nil, List.forall₂_nil_left_iff]
    exact ⟨fun h => (Except.ok.inj h).symm, fun h => h ▸ rfl⟩
  | cons a as ih =>
    simp only [List.mapM_cons, bind_eq_ok, ih, List.forall₂_cons_left_iff]
    constructor
    · rintro ⟨b, hb, bs, hbs, ⟨⟩⟩
      exact ⟨b, bs, hb, hbs, rfl⟩
    · rintro ⟨b, bs, hb, hbs, rfl⟩
      exact ⟨b, hb, bs, hbs, rfl⟩

theorem mapM_left {f : α → Except ε β} {as : List α} {bs : List β} (h : as.mapM f = .ok bs) {a : α}
    (ha : a ∈ as) : ∃ b ∈ bs, f a = .ok b := by
  rw [mapM_eq_ok] at h
  induction h with
  | nil => cases ha
  | cons hab _ ih =>
    obtain rfl | ha := List.mem_cons.mp ha
    · exact ⟨_, List.mem_cons_self, hab⟩
    · obtain ⟨b, hb, hf⟩ := ih ha
      exact ⟨b, List.mem_cons_of_mem _ hb, hf⟩

theorem mapM_right {f : α → Except ε β} {as : List α} {bs : List β} (h : as.mapM f = .ok bs) {b : β}
    (hb : b ∈ bs) : ∃ a ∈ as, f a = .ok b := by
  rw [mapM_eq_ok] at h
  induction h with
  | nil => cases hb
  | cons hab _ ih =>
    obtain rfl | hb := List.mem_cons.mp hb
    · exact ⟨_, List.mem_cons_self, hab⟩
    · obtain ⟨a, ha, hf⟩ := ih hb
      exact ⟨a, List.mem_cons_of_mem _ ha, hf⟩

/-- Of what can be missing, all is there if the whole is. -/
theorem mapM_eq_some_left {f : α → Option β} {as : List α} {bs : List β}
    (h : as.mapM f = some bs) {a : α} (ha : a ∈ as) : ∃ b ∈ bs, f a = some b := by
  induction as generalizing bs with
  | nil => cases ha
  | cons a' as ih =>
    rw [List.mapM_cons] at h
    obtain ⟨b, hb, h⟩ := Option.bind_eq_some_iff.mp h
    obtain ⟨bs', hbs, h⟩ := Option.bind_eq_some_iff.mp h
    obtain rfl := Option.some.inj h
    rcases List.mem_cons.mp ha with rfl | ha
    · exact ⟨b, List.mem_cons_self, hb⟩
    · obtain ⟨b', hb', hf⟩ := ih hbs ha
      exact ⟨b', List.mem_cons_of_mem _ hb', hf⟩

/-- What each step keeps, a run of them keeps. -/
theorem foldlM_keeps {f : β → α → Except ε β} {P : β → Prop}
    (step : ∀ b a b', P b → f b a = .ok b' → P b') {as : List α} {b b' : β} (hb : P b)
    (h : as.foldlM f b = .ok b') : P b' := by
  induction as generalizing b with
  | nil =>
    cases h
    exact hb
  | cons a as ih =>
    rw [List.foldlM_cons] at h
    obtain ⟨b₁, hstep, hrest⟩ := bind_eq_ok.mp h
    exact ih (step b a b₁ hb hstep) hrest

/-- A run that returns has taken every step. -/
theorem foldlM_step {f : β → α → Except ε β} {as : List α} {b c : β} (h : as.foldlM f b = .ok c)
    {a : α} (ha : a ∈ as) : ∃ b' c', f b' a = .ok c' := by
  induction as generalizing b with
  | nil => cases ha
  | cons a' as ih =>
    rw [List.foldlM_cons] at h
    obtain ⟨b₁, hstep, hrest⟩ := bind_eq_ok.mp h
    obtain rfl | ha := List.mem_cons.mp ha
    · exact ⟨b, b₁, hstep⟩
    · exact ih hrest ha

section Order

variable {f : β → α → Except ε β} {R : β → β → Prop}

/-- If steps are followed by steps of what they are related to, so are runs. -/
theorem foldlM_follows {as : List α}
    (follow : ∀ a ∈ as, ∀ {b b' c}, R b b' → f b a = .ok c → ∃ c', f b' a = .ok c' ∧ R c c')
    {b b' c : β} (hb : R b b') (h : as.foldlM f b = .ok c) :
    ∃ c', as.foldlM f b' = .ok c' ∧ R c c' := by
  induction as generalizing b b' with
  | nil =>
    cases h
    exact ⟨b', rfl, hb⟩
  | cons a as ih =>
    rw [List.foldlM_cons] at h ⊢
    obtain ⟨b₁, hstep, hrest⟩ := bind_eq_ok.mp h
    obtain ⟨b₁', hstep', hb₁⟩ := follow a List.mem_cons_self hb hstep
    obtain ⟨c', hrest', hc⟩ := ih (fun a ha => follow a (List.mem_cons_of_mem _ ha)) hb₁ hrest
    exact ⟨c', bind_eq_ok.mpr ⟨b₁', hstep', hrest'⟩, hc⟩

/-- If also two steps can change places, the order of a run does not matter. -/
theorem foldlM_perm (refl : ∀ b, R b b) (trans : ∀ {a b c}, R a b → R b c → R a c)
    (follow : ∀ a {b b' c}, R b b' → f b a = .ok c → ∃ c', f b' a = .ok c' ∧ R c c')
    (swap : ∀ a a' {b c}, [a, a'].foldlM f b = .ok c → ∃ c', [a', a].foldlM f b = .ok c' ∧ R c c')
    {as as' : List α} (hperm : as.Perm as') {b c : β} (h : as.foldlM f b = .ok c) :
    ∃ c', as'.foldlM f b = .ok c' ∧ R c c' := by
  induction hperm generalizing b c with
  | nil => exact ⟨c, h, refl c⟩
  | cons a _ ih =>
    rw [List.foldlM_cons] at h
    obtain ⟨b₁, hstep, hrest⟩ := bind_eq_ok.mp h
    obtain ⟨c', hrest', hc⟩ := ih hrest
    rw [List.foldlM_cons]
    exact ⟨c', bind_eq_ok.mpr ⟨b₁, hstep, hrest'⟩, hc⟩
  | swap a a' as =>
    have hsplit : ∀ x y, (x :: y :: as).foldlM f b = [x, y].foldlM f b >>= as.foldlM f :=
      fun x y => List.foldlM_append (l := [x, y])
    rw [hsplit] at h ⊢
    obtain ⟨b₂, hpair, hrest⟩ := bind_eq_ok.mp h
    obtain ⟨b₂', hpair', hb₂⟩ := swap a' a hpair
    obtain ⟨c', hrest', hc⟩ := foldlM_follows (fun a _ => follow a) hb₂ hrest
    exact ⟨c', bind_eq_ok.mpr ⟨b₂', hpair', hrest'⟩, hc⟩
  | trans _ _ ih₁ ih₂ =>
    obtain ⟨c₁, h₁, hc₁⟩ := ih₁ h
    obtain ⟨c₂, h₂, hc₂⟩ := ih₂ h₁
    exact ⟨c₂, h₂, trans hc₁ hc₂⟩

end Order

end TrafficWatch
