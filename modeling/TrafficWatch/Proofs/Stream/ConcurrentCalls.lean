import Mathlib.Data.List.Induction
import TrafficWatch.Proofs.Stream.Supersession

/-!
Connects and destroys of one reader that run at the same time, each in the steps between which the
others may come. A connect has the lock of the session from its look at the session to the start of
its task, and takes a generation for the task on the way. A destroy takes its generation before it
waits for that lock.
-/

namespace TrafficWatch.Stream.Reader

variable {M H : Type}

/-- A call without the lock, by what it does next. -/
inductive Pending where
  | connect (address : String)
  | destroy
  /-- A destroy that has superseded the tasks and is to leave the session. -/
  | leave
  | abort (task : Option Nat)
  | clear
deriving DecidableEq, Repr

/-- A connect with the lock, by what it does next. -/
inductive Locked where
  | replace (address : String)
  | number (address : String)
  | start (address : String) (generation : Nat)
deriving DecidableEq, Repr

/-- A reader and the calls on it that have not returned. At most one of them has the lock. -/
structure Shared (M H : Type) where
  reader : Reader M H
  pending : List Pending := []
  locked : Option Locked := none

def replace (r : Reader M H) : Reader M H :=
  let r := r.abort r.session.task
  { r with session := { r.session with task := none } }

/-- Starts a task under a generation that has been taken before. -/
def serve (r : Reader M H) (address : String) (generation : Nat) : Reader M H :=
  { r with
    session := ⟨some address, some generation⟩
    tasks := r.tasks ++ [⟨generation, address, r.config.backoff, false, .ready, false⟩] }

namespace Shared

/-- One step of a call without the lock, among others. There is none while it waits for the lock. -/
def advance (s : Shared M H) (others : List Pending) : Pending → Option (Shared M H)
  | .connect address =>
    if ! s.reader.executor then some { s with pending := others }
    else
      match s.locked with
      | some _ => none
      | none =>
        if s.reader.isActive && s.reader.session.address == some address then
          some { s with pending := others }
        else some { s with pending := others, locked := some (.replace address) }
  | .destroy => some { s with reader := s.reader.supersede, pending := .leave :: others }
  | .leave =>
    match s.locked with
    | some _ => none
    | none =>
      some { s with
        reader := s.reader.leaveSession
        pending := .abort s.reader.session.task :: others }
  | .abort t => some { s with reader := s.reader.abort t, pending := .clear :: others }
  | .clear => some { s with reader := s.reader.dropSubscriptions, pending := others }

def advanceLocked (s : Shared M H) : Locked → Shared M H
  | .replace address => { s with reader := s.reader.replace, locked := some (.number address) }
  | .number address =>
    { s with
      reader := s.reader.supersede
      locked := some (.start address (s.reader.generation + 1)) }
  | .start address g => { s with reader := s.reader.serve address g, locked := none }

inductive Act (M H : Type) where
  | connect (address : String)
  | destroy
  /-- The call at a place among those without the lock goes on. -/
  | goOn (place : Nat)
  | goOnLocked
  /-- A task goes on, to whatever comes of it. -/
  | task (generation : Nat) (backoff : Backoff) (hasConnected : Bool) (phase : Phase)
  /-- Whatever else is done to a reader, or around it. -/
  | elsewhere (registry : Registry H) (buffer : Ring M) (stats : StreamStats) (executor : Bool)

def act (s : Shared M H) : Act M H → Option (Shared M H)
  | .connect address => some { s with pending := s.pending ++ [.connect address] }
  | .destroy => some { s with pending := s.pending ++ [.destroy] }
  | .goOn place => s.pending[place]?.bind (s.advance (s.pending.eraseIdx place))
  | .goOnLocked => s.locked.map s.advanceLocked
  | .task g backoff hasConnected phase =>
    some { s with reader := s.reader.updateTask g ({ · with backoff, hasConnected, phase }) }
  | .elsewhere registry buffer stats executor =>
    some { s with reader := { s.reader with registry, buffer, stats, executor } }

def run (s : Shared M H) (acts : List (Act M H)) : Option (Shared M H) := acts.foldlM act s

/-- All calls have returned. -/
def Quiet (s : Shared M H) : Prop := s.pending = [] ∧ s.locked = none

/-- The task of the session is the current one, or there is neither. -/
def Settled (s : Shared M H) : Prop :=
  (∃ g, s.reader.session.task = some g ∧ s.reader.isCurrent g = true) ∨
    s.reader.session.task = none ∧
      ∀ t ∈ s.reader.tasks, s.reader.isCurrent t.generation = false

def idle (name : String) (config : Config) : Shared M H := ⟨create name config, [], none⟩

theorem run_append (s : Shared M H) (acts more : List (Act M H)) :
    run s (acts ++ more) = (run s acts).bind fun s' => run s' more :=
  List.foldlM_append

theorem run_destroy (r : Reader M H) :
    run ⟨r, [], none⟩ [.destroy, .goOn 0, .goOn 0, .goOn 0, .goOn 0] = some ⟨r.destroy, [], none⟩ :=
  rfl

theorem run_connect (r : Reader M H) (address : String) :
    ∃ n, run ⟨r, [], none⟩ (.connect address :: .goOn 0 :: List.replicate n .goOnLocked) =
      some ⟨r.connect address, [], none⟩ := by
  cases hexecutor : r.executor with
  | false => exact ⟨0, by simp [run, act, advance, Reader.connect, hexecutor]⟩
  | true =>
    by_cases hactive : r.isActive = true ∧ r.session.address = some address
    · exact ⟨0, by simp [run, act, advance, Reader.connect, hexecutor, hactive]⟩
    · refine ⟨3, ?_⟩
      have hserve : r.replace.supersede.serve address (r.replace.generation + 1) =
          (r.abort r.session.task).start address := rfl
      simp [run, act, advance, Reader.connect, hexecutor, hactive, advanceLocked, List.replicate,
        hserve]

variable {s s' : Shared M H} {a : Act M H} {acts : List (Act M H)} {o : Prop}

/-- The current generation is one that a connect has taken for a task. -/
def Taken (s : Shared M H) : Prop :=
  (∃ t ∈ s.reader.tasks, t.generation = s.reader.generation) ∨
    ∃ address, s.locked = some (.start address s.reader.generation)

theorem Taken.exists_task (h : s.Taken) (hl : ∀ address g, s.locked ≠ some (.start address g)) :
    ∃ t ∈ s.reader.tasks, t.generation = s.reader.generation :=
  h.resolve_right fun ⟨address, heq⟩ => hl address _ heq

/-- The connect that has the lock takes a generation while a destroy, that has its own already, is
still to come for the session. -/
def Overtakes (s : Shared M H) (a : Act M H) : Prop :=
  a = .goOnLocked ∧ (∃ address, s.locked = some (.number address)) ∧ .leave ∈ s.pending

/-- A connect overtook a destroy, and no generation has been taken since. -/
def Overtaken (s₀ : Shared M H) (acts : List (Act M H)) (s : Shared M H) : Prop :=
  ∃ before a after s₁, acts = before ++ a :: after ∧ run s₀ before = some s₁ ∧ Overtakes s₁ a ∧
    s.reader.generation = s₁.reader.generation + 1

/-- What holds between any two steps, where `o` is for the last connect having overtaken a
destroy. -/
structure Guarded (s : Shared M H) (o : Prop) : Prop where
  bounded : ∀ t ∈ s.reader.tasks, t.generation ≤ s.reader.generation
  distinct : (s.reader.tasks.map (·.generation)).Nodup
  /-- A session whose task is behind will be left. -/
  held : ∀ g, s.reader.session.task = some g →
    (∃ t ∈ s.reader.tasks, t.generation = g) ∧ (g = s.reader.generation ∨ .leave ∈ s.pending)
  vacant : ∀ l, s.locked = some l → (∀ address, l ≠ .replace address) →
    s.reader.session.task = none
  numbered : ∀ address g, s.locked = some (.start address g) →
    g ≤ s.reader.generation ∧ (∀ t ∈ s.reader.tasks, t.generation < g) ∧
      (g = s.reader.generation ∨ .leave ∈ s.pending)
  /-- A task that has lost its session is aborted, or there is a call that will do so. -/
  lost : ∀ t ∈ s.reader.tasks, s.reader.session.task = some t.generation ∨ t.aborted = true ∨
    .abort (some t.generation) ∈ s.pending
  /-- A destroy that is to come finds a current task only if the task's connect overtook it. -/
  coming : .leave ∈ s.pending → s.Taken → o
  /-- A current task loses its session to a destroy that was overtaken, or to a connect that will
  take the next generation. -/
  kept : ∀ t ∈ s.reader.tasks, t.generation = s.reader.generation →
    s.reader.session.task = some t.generation ∨ o ∨ ∃ address, s.locked = some (.number address)
  overtaken : o → .leave ∈ s.pending ∧ s.Taken ∨
    s.reader.session.task = none ∧ ∃ t ∈ s.reader.tasks, t.generation = s.reader.generation

/-- A reader with the same tasks, of which no fewer are aborted. -/
structure Onward (r r' : Reader M H) : Prop where
  steady : Traced.Steady r r'
  aborted : ∀ t' ∈ r'.tasks, ∃ t ∈ r.tasks, t.generation = t'.generation ∧
    (t.aborted = true → t'.aborted = true)

theorem Onward.refl (r : Reader M H) : Onward r r := ⟨⟨rfl, rfl⟩, fun t ht => ⟨t, ht, rfl, id⟩⟩

theorem onward_updateTask (r : Reader M H) (g : Nat) {f : Task → Task}
    (hf : ∀ t, (f t).generation = t.generation)
    (ha : ∀ t, t.aborted = true → (f t).aborted = true) :
    Onward r (r.updateTask g f) where
  steady := Traced.steady_updateTask r g hf
  aborted := by
    intro t' ht'
    obtain ⟨t, ht, rfl⟩ := List.mem_map.mp ht'
    refine ⟨t, ht, ?_⟩
    split
    · exact ⟨(hf t).symm, ha t⟩
    · exact ⟨rfl, id⟩

theorem onward_abort (r : Reader M H) (g : Option Nat) : Onward r (r.abort g) := by
  cases g with
  | none => exact Onward.refl r
  | some g => exact onward_updateTask r g (fun _ => rfl) fun _ _ => rfl

theorem aborted_of_abort (r : Reader M H) {t : Task}
    (ht : t ∈ (r.abort (some t.generation)).tasks) :
    t.aborted = true := by
  obtain ⟨t₀, -, heq⟩ := List.mem_map.mp ht
  split at heq
  · exact heq ▸ rfl
  · next hne => exact absurd (heq ▸ rfl) hne

theorem session_abort (r : Reader M H) (g : Option Nat) : (r.abort g).session = r.session := by
  cases g <;> rfl

theorem Onward.mem {r r' : Reader M H} (h : Onward r r') {g : Nat} :
    (∃ t ∈ r'.tasks, t.generation = g) ↔ ∃ t ∈ r.tasks, t.generation = g := by
  have hm := congrArg (g ∈ ·) h.steady.tasks
  simpa only [List.mem_map, eq_iff_iff] using hm

theorem mem_others {calls : List Pending} {place : Nat} {c x : Pending}
    (hc : calls[place]? = some c) (hx : x ∈ calls) (hne : x ≠ c) : x ∈ calls.eraseIdx place := by
  obtain ⟨i, hi⟩ := List.mem_iff_getElem?.mp hx
  have hplace : i ≠ place := fun h => hne (Option.some.inj (hi.symm.trans (h ▸ hc)))
  exact List.mem_eraseIdx_iff_getElem?.mpr ⟨i, hplace, hi⟩

/-- A step that takes no generation and leaves the session to its task. -/
theorem Guarded.frame (h : s.Guarded o) (hr : Onward s.reader s'.reader)
    (hsession : s'.reader.session = s.reader.session)
    (hlocked : s'.locked = s.locked ∨
      s.locked = none ∧ ∃ address, s'.locked = some (.replace address))
    (hleave : .leave ∈ s'.pending ↔ .leave ∈ s.pending)
    (habort : ∀ t' ∈ s'.reader.tasks, .abort (some t'.generation) ∈ s.pending →
      t'.aborted = true ∨ .abort (some t'.generation) ∈ s'.pending) : s'.Guarded o := by
  have hg := hr.steady.generation
  have hback {l : Locked} (hl : s'.locked = some l) (hn : ∀ address, l ≠ .replace address) :
      s.locked = some l := by
    rcases hlocked with hsame | ⟨-, address, hreplace⟩
    · exact hsame ▸ hl
    · exact absurd (Option.some.inj (hl.symm.trans hreplace)) (hn address)
  have hforth {l : Locked} (hl : s.locked = some l) : s'.locked = some l := by
    rcases hlocked with hsame | ⟨hnone, -⟩
    · exact hsame ▸ hl
    · cases hnone.symm.trans hl
  have htaken : s'.Taken ↔ s.Taken := by
    unfold Taken
    rw [hg, hr.mem]
    exact or_congr_right (exists_congr fun address => ⟨fun hl => hback hl (by simp), hforth⟩)
  exact {
    bounded := hg ▸ hr.steady.le h.bounded
    distinct := hr.steady.tasks ▸ h.distinct
    held := fun g hs => by
      rw [hr.mem, hg, hleave]
      exact h.held g (hsession ▸ hs)
    vacant := fun l hl hn => hsession ▸ h.vacant l (hback hl hn) hn
    numbered := fun address g hl => by
      obtain ⟨hle, hlt, hor⟩ := h.numbered address g (hback hl (by simp))
      rw [hg, hleave]
      refine ⟨hle, fun t' ht' => ?_, hor⟩
      obtain ⟨t, ht, heq, -⟩ := hr.aborted t' ht'
      exact heq ▸ hlt t ht
    lost := fun t' ht' => by
      obtain ⟨t, ht, heq, ha⟩ := hr.aborted t' ht'
      rw [hsession]
      rcases h.lost t ht with hs | hs | hs
      · exact Or.inl (heq ▸ hs)
      · exact Or.inr (Or.inl (ha hs))
      · exact Or.inr (habort t' ht' (heq ▸ hs))
    coming := by
      rw [hleave, htaken]
      exact h.coming
    kept := fun t' ht' hcur => by
      obtain ⟨t, ht, heq, -⟩ := hr.aborted t' ht'
      rw [hsession, ← heq]
      rcases h.kept t ht (heq.trans (hcur.trans hg)) with hs | ho | ⟨address, hl⟩
      · exact Or.inl hs
      · exact Or.inr (Or.inl ho)
      · exact Or.inr (Or.inr ⟨address, hforth hl⟩)
    overtaken := fun ho => by
      rw [hleave, htaken, hsession, hg, hr.mem]
      exact h.overtaken ho }

/-! The steps that take a generation, or the session. -/

theorem Guarded.superseded (h : s.Guarded o) {others : List Pending}
    (hothers : ∀ x ∈ s.pending, x ≠ .destroy → x ∈ others) :
    Guarded { s with reader := s.reader.supersede, pending := .leave :: others } False where
  bounded t ht := Nat.le_succ_of_le (h.bounded t ht)
  distinct := h.distinct
  held g hs := ⟨(h.held g hs).1, Or.inr List.mem_cons_self⟩
  vacant := h.vacant
  numbered address g hl :=
    have ⟨hle, hlt, _⟩ := h.numbered address g hl
    ⟨Nat.le_succ_of_le hle, hlt, Or.inr List.mem_cons_self⟩
  lost t ht := (h.lost t ht).imp_right (Or.imp_right fun hm =>
    List.mem_cons_of_mem _ (hothers _ hm (by simp)))
  coming := by
    rintro - (⟨t, ht, heq⟩ | ⟨address, hl⟩)
    · exact Nat.not_succ_le_self _ (heq ▸ h.bounded t ht)
    · exact Nat.not_succ_le_self _ (h.numbered address _ hl).1
  kept t ht heq := absurd (heq ▸ h.bounded t ht) (Nat.not_succ_le_self _)
  overtaken := False.elim

theorem Guarded.left (h : s.Guarded o) (hlocked : s.locked = none) (hleave : .leave ∈ s.pending)
    {others : List Pending} (hothers : ∀ x ∈ s.pending, x ≠ .leave → x ∈ others) :
    Guarded { s with
      reader := s.reader.leaveSession
      pending := .abort s.reader.session.task :: others } o where
  bounded := h.bounded
  distinct := h.distinct
  held _ hs := nomatch hs
  vacant _ _ _ := rfl
  numbered _ _ hl := nomatch hlocked.symm.trans hl
  lost t ht := by
    refine Or.inr ?_
    rcases h.lost t ht with hs | hs | hs
    · exact Or.inr (hs ▸ List.mem_cons_self)
    · exact Or.inl hs
    · exact Or.inr (List.mem_cons_of_mem _ (hothers _ hs (by simp)))
  -- this destroy was itself still to come
  coming _ ht := h.coming hleave ht
  kept t ht heq := Or.inr (Or.inl (h.coming hleave (Or.inl ⟨t, ht, heq⟩)))
  overtaken ho := by
    rcases h.overtaken ho with ⟨-, ht⟩ | ⟨-, ht⟩
    · exact Or.inr ⟨rfl, ht.exists_task (by simp [hlocked])⟩
    · exact Or.inr ⟨rfl, ht⟩

theorem Guarded.replaced (h : s.Guarded o) {address : String}
    (hlocked : s.locked = some (.replace address)) :
    Guarded { s with reader := s.reader.replace, locked := some (.number address) } o := by
  have hr := onward_abort s.reader s.reader.session.task
  have hg := hr.steady.generation
  have hmem := hr.mem (g := s.reader.generation)
  exact {
    bounded := hg ▸ hr.steady.le h.bounded
    distinct := hr.steady.tasks ▸ h.distinct
    held := fun _ hs => nomatch hs
    vacant := fun _ _ _ => rfl
    numbered := fun _ _ hl => nomatch hl
    lost := fun t' ht' => by
      refine Or.inr ?_
      obtain ⟨t, ht, heq, ha⟩ := hr.aborted t' ht'
      rcases h.lost t ht with hs | hs | hs
      · exact Or.inl (aborted_of_abort s.reader (heq ▸ hs ▸ ht'))
      · exact Or.inl (ha hs)
      · exact Or.inr (heq ▸ hs)
    coming := fun hleave ht => by
      obtain ⟨t, ht, heq⟩ := ht.exists_task (by simp)
      exact h.coming hleave (Or.inl (hmem.mp ⟨t, ht, heq.trans hg⟩))
    kept := fun _ _ _ => Or.inr (Or.inr ⟨address, rfl⟩)
    overtaken := fun ho => by
      rcases h.overtaken ho with ⟨hleave, ht⟩ | ⟨-, ht⟩
      · exact Or.inl ⟨hleave, Or.inl (hg ▸ hmem.mpr (ht.exists_task (by simp [hlocked])))⟩
      · exact Or.inr ⟨rfl, hg ▸ hmem.mpr ht⟩ }

theorem Guarded.numbering (h : s.Guarded o) {address : String}
    (hlocked : s.locked = some (.number address)) :
    Guarded { s with
      reader := s.reader.supersede
      locked := some (.start address (s.reader.generation + 1)) } (.leave ∈ s.pending) := by
  have hnone := h.vacant _ hlocked (by simp)
  exact {
    bounded := fun t ht => Nat.le_succ_of_le (h.bounded t ht)
    distinct := h.distinct
    held := fun _ hs => nomatch hnone.symm.trans hs
    vacant := fun _ _ _ => hnone
    numbered := by
      rintro _ _ ⟨⟩
      exact ⟨Nat.le_refl _, fun t ht => Nat.lt_succ_of_le (h.bounded t ht), Or.inl rfl⟩
    lost := h.lost
    coming := fun hleave _ => hleave
    kept := fun t ht heq => absurd (heq ▸ h.bounded t ht) (Nat.not_succ_le_self _)
    overtaken := fun hleave => Or.inl ⟨hleave, Or.inr ⟨address, rfl⟩⟩ }

theorem Guarded.started (h : s.Guarded o) {address : String} {g : Nat}
    (hlocked : s.locked = some (.start address g)) :
    Guarded { s with reader := s.reader.serve address g, locked := none } o := by
  obtain ⟨hle, hlt, hcurrent⟩ := h.numbered address g hlocked
  have hnone := h.vacant _ hlocked (by simp)
  have hmem {t : Task} (ht : t ∈ (s.reader.serve address g).tasks) :
      t ∈ s.reader.tasks ∨ t.generation = g :=
    (List.mem_append.mp ht).imp_right fun hm => by rw [List.mem_singleton.mp hm]
  have hnew : ∃ t ∈ (s.reader.serve address g).tasks, t.generation = g :=
    ⟨_, List.mem_append_right _ (List.mem_singleton_self _), rfl⟩
  have htaken (ht : s.Taken) : ∃ t ∈ (s.reader.serve address g).tasks,
      t.generation = s.reader.generation := by
    rcases ht with ⟨t, ht, heq⟩ | ⟨_, hl⟩
    · exact ⟨t, List.mem_append_left _ ht, heq⟩
    · obtain ⟨-, rfl⟩ := Locked.start.inj (Option.some.inj (hlocked.symm.trans hl))
      exact hnew
  exact {
    bounded := fun t ht => by
      rcases hmem ht with ht | rfl
      · exact h.bounded t ht
      · exact hle
    distinct := by
      have hd : (s.reader.tasks.map (·.generation) ++ [g]).Nodup := by
        refine List.nodup_append.mpr ⟨h.distinct, List.pairwise_singleton _ g, ?_⟩
        intro g' hm _ hg
        obtain ⟨t, ht, rfl⟩ := List.mem_map.mp hm
        exact List.mem_singleton.mp hg ▸ Nat.ne_of_lt (hlt t ht)
      simpa [serve] using hd
    held := fun g' hs => Option.some.inj hs ▸ ⟨hnew, hcurrent⟩
    vacant := fun _ hl => nomatch hl
    numbered := fun _ _ hl => nomatch hl
    lost := fun t ht => by
      rcases hmem ht with ht | rfl
      · exact Or.inr ((h.lost t ht).resolve_left (by simp [hnone]))
      · exact Or.inl rfl
    coming := fun hleave ht => by
      obtain ⟨t, ht, heq⟩ := ht.exists_task (by simp)
      refine h.coming hleave ?_
      rcases hmem ht with ht | rfl
      · exact Or.inl ⟨t, ht, heq⟩
      · exact Or.inr ⟨address, heq ▸ hlocked⟩
    kept := fun t ht heq => by
      rcases hmem ht with ht | rfl
      · exact absurd (heq ▸ hlt t ht) (Nat.not_lt.mpr hle)
      · exact Or.inl rfl
    overtaken := fun ho => by
      rcases h.overtaken ho with ⟨hleave, ht⟩ | ⟨-, t, ht, heq⟩
      · exact Or.inl ⟨hleave, Or.inl (htaken ht)⟩
      -- no task so far has the generation that this one is started under
      · exact absurd (heq ▸ hlt t ht) (Nat.not_lt.mpr hle) }

/-- Either the generation stays, or the step takes the next one. -/
def Onto (o o' : Prop) (s s' : Shared M H) : Prop :=
  s'.reader.generation = s.reader.generation ∧ s'.Guarded o ∨
    s'.reader.generation = s.reader.generation + 1 ∧ s'.Guarded o'

theorem Guarded.advance (h : s.Guarded o) {place : Nat} {c : Pending}
    (hc : s.pending[place]? = some c) (hs : s.advance (s.pending.eraseIdx place) c = some s') :
    Onto o False s s' := by
  have hothers {x : Pending} (hx : x ∈ s.pending) (hne : x ≠ c) := mem_others hc hx hne
  have hof {x : Pending} (hx : x ∈ s.pending.eraseIdx place) := List.mem_of_mem_eraseIdx hx
  cases c with
  | connect address =>
    have hreturned : Guarded { s with pending := s.pending.eraseIdx place } o :=
      h.frame (Onward.refl _) rfl (Or.inl rfl) ⟨hof, fun hm => hothers hm (by simp)⟩
        fun _ _ hm => Or.inr (hothers hm (by simp))
    simp only [Shared.advance] at hs
    split at hs
    · obtain rfl := Option.some.inj hs
      exact Or.inl ⟨rfl, hreturned⟩
    · split at hs
      · cases hs
      · next hlocked =>
        split at hs
        · obtain rfl := Option.some.inj hs
          exact Or.inl ⟨rfl, hreturned⟩
        · obtain rfl := Option.some.inj hs
          refine Or.inl ⟨rfl, hreturned.frame (Onward.refl _) rfl ?_ Iff.rfl fun _ _ => Or.inr⟩
          exact Or.inr ⟨hlocked, address, rfl⟩
  | destroy =>
    obtain rfl := Option.some.inj hs
    exact Or.inr ⟨rfl, h.superseded fun _ => hothers⟩
  | leave =>
    simp only [Shared.advance] at hs
    split at hs
    · cases hs
    · next hlocked =>
      obtain rfl := Option.some.inj hs
      exact Or.inl ⟨rfl, h.left hlocked (List.mem_of_getElem? hc) fun _ => hothers⟩
  | abort t =>
    obtain rfl := Option.some.inj hs
    have hr := onward_abort s.reader t
    refine Or.inl ⟨hr.steady.generation, h.frame hr (session_abort _ _) (Or.inl rfl) ?_ ?_⟩
    · exact ⟨fun hm => hof (by simpa using hm),
        fun hm => List.mem_cons_of_mem _ (hothers hm (by simp))⟩
    · intro t' ht' hm
      by_cases heq : Pending.abort (some t'.generation) = .abort t
      · obtain rfl := Pending.abort.inj heq
        exact Or.inl (aborted_of_abort s.reader ht')
      · exact Or.inr (List.mem_cons_of_mem _ (hothers hm heq))
  | clear =>
    obtain rfl := Option.some.inj hs
    refine Or.inl ⟨rfl, h.frame ⟨⟨rfl, rfl⟩, fun t ht => ⟨t, ht, rfl, id⟩⟩ rfl (Or.inl rfl) ?_ ?_⟩
    · exact ⟨hof, fun hm => hothers hm (by simp)⟩
    · exact fun _ _ hm => Or.inr (hothers hm (by simp))

theorem Guarded.advanceLocked (h : s.Guarded o) {l : Locked} (hlocked : s.locked = some l) :
    Onto o (s.Overtakes .goOnLocked) s (s.advanceLocked l) := by
  cases l with
  | replace address =>
    have hg := (onward_abort s.reader s.reader.session.task).steady.generation
    exact Or.inl ⟨hg, h.replaced hlocked⟩
  | number address =>
    have ho : s.Overtakes .goOnLocked = (.leave ∈ s.pending) := by simp [Overtakes, hlocked]
    exact Or.inr ⟨rfl, ho ▸ h.numbering hlocked⟩
  | start address g => exact Or.inl ⟨rfl, h.started hlocked⟩

/-- What one step keeps. -/
theorem Guarded.act (h : s.Guarded o) (hs : s.act a = some s') : Onto o (s.Overtakes a) s s' := by
  have hcalled {c : Pending} (hc : c = .destroy ∨ ∃ address, c = .connect address) :
      Guarded { s with pending := s.pending ++ [c] } o := by
    refine h.frame (Onward.refl _) rfl (Or.inl rfl) ?_ fun _ _ hm =>
      Or.inr (List.mem_append_left _ hm)
    rcases hc with rfl | ⟨address, rfl⟩ <;> simp
  cases a with
  | connect address =>
    obtain rfl := Option.some.inj hs
    exact Or.inl ⟨rfl, hcalled (Or.inr ⟨address, rfl⟩)⟩
  | destroy =>
    obtain rfl := Option.some.inj hs
    exact Or.inl ⟨rfl, hcalled (Or.inl rfl)⟩
  | goOn place =>
    obtain ⟨c, hc, hs⟩ := Option.bind_eq_some_iff.mp hs
    have ho : s.Overtakes (.goOn place) = False := by simp [Overtakes]
    exact ho ▸ h.advance hc hs
  | goOnLocked =>
    obtain ⟨l, hl, rfl⟩ := Option.map_eq_some_iff.mp hs
    exact h.advanceLocked hl
  | task g backoff hasConnected phase =>
    obtain rfl := Option.some.inj hs
    have hr := onward_updateTask s.reader g (f := ({ · with backoff, hasConnected, phase }))
      (fun _ => rfl) fun _ ha => ha
    exact Or.inl ⟨rfl, h.frame hr rfl (Or.inl rfl) Iff.rfl fun _ _ => Or.inr⟩
  | elsewhere registry buffer stats executor =>
    obtain rfl := Option.some.inj hs
    exact Or.inl ⟨rfl, h.frame ⟨⟨rfl, rfl⟩, fun t ht => ⟨t, ht, rfl, id⟩⟩ rfl (Or.inl rfl) Iff.rfl
      fun _ _ => Or.inr⟩

theorem Onto.le (h : Onto o (s.Overtakes a) s s') :
    s.reader.generation ≤ s'.reader.generation := by
  rcases h with ⟨heq, -⟩ | ⟨heq, -⟩ <;> omega

theorem Guarded.run (h : s.Guarded o) (hs : run s acts = some s') :
    (∃ o', s'.Guarded o') ∧ s.reader.generation ≤ s'.reader.generation := by
  induction acts generalizing s o with
  | nil =>
    obtain rfl := Option.some.inj hs
    exact ⟨⟨o, h⟩, Nat.le_refl _⟩
  | cons a acts ih =>
    obtain ⟨s₁, h₁, h₂⟩ := Option.bind_eq_some_iff.mp hs
    have hstep := h.act h₁
    obtain ⟨o', ho'⟩ : ∃ o', s₁.Guarded o' := by
      rcases hstep with ⟨-, ho'⟩ | ⟨-, ho'⟩ <;> exact ⟨_, ho'⟩
    exact ⟨(ih ho' h₂).1, Nat.le_trans hstep.le (ih ho' h₂).2⟩

theorem guarded_idle (name : String) (config : Config) :
    (idle name config : Shared M H).Guarded False where
  bounded := by simp [idle, create]
  distinct := List.nodup_nil
  held := by simp [idle, create]
  vacant _ hl := nomatch hl
  numbered _ _ hl := nomatch hl
  lost := by simp [idle, create]
  coming := by simp [idle]
  kept := by simp [idle, create]
  overtaken := False.elim

variable {s₀ : Shared M H}

theorem Overtakes.generation (h : s.Overtakes a) (hs : s.act a = some s') :
    s'.reader.generation = s.reader.generation + 1 := by
  obtain ⟨rfl, ⟨address, hl⟩, -⟩ := h
  obtain ⟨l, hl', rfl⟩ := Option.map_eq_some_iff.mp hs
  obtain rfl := Option.some.inj (hl.symm.trans hl')
  rfl

theorem overtakes_le (h₀ : s₀.Guarded False) {before after : List (Act M H)}
    (hs : run s₀ (before ++ a :: after) = some s') (h₁ : run s₀ before = some s)
    (ho : s.Overtakes a) : s.reader.generation + 1 ≤ s'.reader.generation := by
  obtain ⟨⟨o, hguarded⟩, -⟩ := h₀.run h₁
  rw [run_append, h₁, Option.bind_some] at hs
  obtain ⟨s₂, h₂, h₃⟩ := Option.bind_eq_some_iff.mp hs
  have hgen := ho.generation h₂
  rcases hguarded.act h₂ with ⟨-, h⟩ | ⟨-, h⟩
  · exact hgen ▸ (h.run h₃).2
  · exact hgen ▸ (h.run h₃).2

/-- An overtaking of the last generation is either the last step, or one before. -/
theorem overtaken_concat (h₀ : s₀.Guarded False) (hs : run s₀ acts = some s)
    (hle : s.reader.generation ≤ s'.reader.generation) :
    Overtaken s₀ (acts ++ [a]) s' ↔
      Overtaken s₀ acts s ∧ s'.reader.generation = s.reader.generation ∨
        s.Overtakes a ∧ s'.reader.generation = s.reader.generation + 1 := by
  constructor
  · rintro ⟨before, a₁, after, s₁, heq, h₁, hovertakes, hlast⟩
    rcases List.eq_nil_or_concat after with rfl | ⟨after, a₂, rfl⟩
    · obtain ⟨rfl, hone⟩ := List.append_inj' heq rfl
      obtain rfl := (List.cons.inj hone).1
      obtain rfl := Option.some.inj (hs.symm.trans h₁)
      exact Or.inr ⟨hovertakes, hlast⟩
    · have hconcat : acts ++ [a] = (before ++ a₁ :: after) ++ [a₂] := by simpa using heq
      obtain ⟨rfl, -⟩ := List.append_inj' hconcat rfl
      have hge := overtakes_le h₀ hs h₁ hovertakes
      have hsame : s'.reader.generation = s.reader.generation := Nat.le_antisymm (hlast ▸ hge) hle
      exact Or.inl ⟨⟨before, a₁, after, s₁, rfl, h₁, hovertakes, hsame ▸ hlast⟩, hsame⟩
  · rintro (⟨⟨before, a₁, after, s₁, rfl, h₁, hovertakes, hlast⟩, heq⟩ | ⟨hovertakes, heq⟩)
    · exact ⟨before, a₁, after ++ [a], s₁, by simp, h₁, hovertakes, heq.trans hlast⟩
    · exact ⟨acts, a, [], s, rfl, hs, hovertakes, heq⟩

/-- What a whole run keeps. -/
theorem guarded_run (h₀ : s₀.Guarded False) (hs : run s₀ acts = some s) :
    s.Guarded (Overtaken s₀ acts s) := by
  -- from the end, since the invariant is about all acts so far
  induction acts using List.reverseRecOn generalizing s with
  | nil =>
    obtain rfl := Option.some.inj hs
    have hnone : Overtaken s₀ [] s₀ = False := by simp [Overtaken]
    exact hnone ▸ h₀
  | append_singleton acts a ih =>
    rw [run_append] at hs
    obtain ⟨s₁, h₁, h₂⟩ := Option.bind_eq_some_iff.mp hs
    replace h₂ : s₁.act a = some s := by simpa [run] using h₂
    have hstep := (ih h₁).act h₂
    have hconcat := overtaken_concat (a := a) h₀ h₁ hstep.le
    rcases hstep with ⟨hgen, h⟩ | ⟨hgen, h⟩
    · have ho : Overtaken s₀ (acts ++ [a]) s = Overtaken s₀ acts s₁ := by simp [hconcat, hgen]
      exact ho ▸ h
    · have ho : Overtaken s₀ (acts ++ [a]) s = s₁.Overtakes a := by simp [hconcat, hgen]
      exact ho ▸ h

/-- Once all calls are over, a task that is behind stays behind. -/
theorem Guarded.never_current (h : s.Guarded o) (hq : s.Quiet) (ho : ¬ o) {t : Task}
    (ht : t ∈ s.reader.tasks) (hne : s.reader.session.task ≠ some t.generation)
    (more : List (Act M H)) (hmore : s.run more = some s') :
    s'.reader.isCurrent t.generation = false := by
  have hbehind : t.generation ≠ s.reader.generation := by
    intro heq
    rcases h.kept t ht heq with hsession | hovertaken | ⟨address, hl⟩
    · exact hne hsession
    · exact ho hovertaken
    · cases hq.2.symm.trans hl
  have hlt := Nat.lt_of_le_of_ne (h.bounded t ht) hbehind
  have hle := (h.run hmore).2
  simp only [isCurrent, beq_eq_false_iff_ne]
  omega

theorem Guarded.not_settled (h : s.Guarded o) (hq : s.Quiet) (ho : o) : ¬ s.Settled := by
  have hover : .leave ∉ s.pending := by simp [hq.1]
  obtain ⟨hnone, t, ht, heq⟩ := (h.overtaken ho).resolve_left fun hc => hover hc.1
  rintro (⟨g, hg, -⟩ | ⟨-, hbehind⟩)
  · cases hnone.symm.trans hg
  · simpa [isCurrent, heq] using hbehind t ht

/-- Whatever the calls and the steps of each, and in whatever order: once all calls are over, the
task of the session, if there is one, is the current one, and every other task is aborted. All is
settled, and the others are never current again, except in one case: the last call to take a
generation is a connect that takes it while a destroy has its own and is still to come for the
session. Then that destroy leaves no session, and the connect's task current. -/
theorem settled_iff_not_overtaken (name : String) (config : Config)
    (hs : run (idle name config) acts = some s) (hq : s.Quiet) :
    (s.reader.tasks.map (·.generation)).Nodup ∧
      (∀ g, s.reader.session.task = some g →
        s.reader.isCurrent g = true ∧ ∃ t ∈ s.reader.tasks, t.generation = g) ∧
      (∀ t ∈ s.reader.tasks, s.reader.session.task = some t.generation ∨ t.aborted = true) ∧
      (s.Settled ↔ ¬ Overtaken (idle name config) acts s) ∧
      (s.Settled → ∀ t ∈ s.reader.tasks, s.reader.session.task ≠ some t.generation →
        ∀ more s', run s more = some s' → s'.reader.isCurrent t.generation = false) := by
  have h := guarded_run (guarded_idle name config) hs
  have hover {c : Pending} (hc : c ∈ s.pending) : False := by simp [hq.1] at hc
  have hsession (g : Nat) (hg : s.reader.session.task = some g) : s.reader.isCurrent g = true := by
    simp [isCurrent, (h.held g hg).2.resolve_right hover]
  have hsettled : s.Settled ↔ ¬ Overtaken (idle name config) acts s := by
    refine ⟨fun hsettled ho => h.not_settled hq ho hsettled, fun ho => ?_⟩
    cases hg : s.reader.session.task with
    | some g => exact Or.inl ⟨g, hg, hsession g hg⟩
    | none =>
      refine Or.inr ⟨hg, fun t ht => ?_⟩
      exact h.never_current hq ho ht (by simp [hg]) [] rfl
  refine ⟨h.distinct, fun g hg => ⟨hsession g hg, (h.held g hg).1⟩, ?_, hsettled, ?_⟩
  · exact fun t ht => (h.lost t ht).imp_right (·.resolve_right hover)
  · exact fun hs t ht hne more s' => h.never_current hq (hsettled.mp hs) ht hne more

/-- A connect and a destroy that cross: the connect has its generation when the destroy takes the
next. -/
def crossing : List (Act Nat Unit) := [
  .connect "proxy", .goOn 0, .goOnLocked, .goOnLocked, .destroy, .goOn 0, .goOnLocked, .goOn 0,
  .goOn 0, .goOn 0]

theorem settled_after_crossing :
    ∃ s, run (idle "proxy" {}) crossing = some s ∧ s.Quiet ∧ s.reader.tasks.length = 1 ∧
      ¬ Overtaken (idle "proxy" {}) crossing s ∧
      ∀ t ∈ s.reader.tasks, t.aborted = true ∧
        ∀ more s', run s more = some s' → s'.reader.isCurrent t.generation = false := by
  obtain ⟨s, hs, hq, hsession, hlength, hbehind⟩ : ∃ s, run (idle "proxy" {}) crossing = some s ∧
      s.Quiet ∧ s.reader.session.task = none ∧ s.reader.tasks.length = 1 ∧
      ∀ t ∈ s.reader.tasks, s.reader.isCurrent t.generation = false :=
    ⟨_, rfl, ⟨rfl, rfl⟩, rfl, rfl, by decide⟩
  obtain ⟨-, -, haborted, hiff, hnever⟩ := settled_iff_not_overtaken "proxy" {} hs hq
  have hsettled : s.Settled := Or.inr ⟨hsession, hbehind⟩
  have hnone (t : Task) : s.reader.session.task ≠ some t.generation := by simp [hsession]
  exact ⟨s, hs, hq, hlength, hiff.mp hsettled, fun t ht =>
    ⟨(haborted t ht).resolve_left (hnone t), hnever hsettled t ht (hnone t)⟩⟩

def overtaking : List (Act Nat Unit) := [
  .destroy, .goOn 0, .connect "proxy", .goOn 1, .goOnLocked, .goOnLocked, .goOnLocked, .goOn 0,
  .goOn 0, .goOn 0]

theorem not_settled_after_overtaking :
    ¬ ∀ (acts : List (Act Nat Unit)) (s : Shared Nat Unit),
      run (idle "proxy" {}) acts = some s → s.Quiet → s.Settled := by
  intro hclaim
  obtain ⟨s, hs, hq, hsession, t, ht, hcurrent⟩ : ∃ s, run (idle "proxy" {}) overtaking = some s ∧
      s.Quiet ∧ s.reader.session.task = none ∧
      ∃ t ∈ s.reader.tasks, s.reader.isCurrent t.generation = true :=
    ⟨_, rfl, ⟨rfl, rfl⟩, rfl, _, List.mem_singleton_self _, rfl⟩
  rcases hclaim overtaking s hs hq with ⟨g, hg, -⟩ | ⟨-, hbehind⟩
  · cases hsession.symm.trans hg
  · cases hcurrent.symm.trans (hbehind t ht)

end Shared

end TrafficWatch.Stream.Reader
