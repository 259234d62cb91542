import TrafficWatch.Proofs.Stream.Interleaving
import TrafficWatch.Proofs.Stream.Preservation

/-!
A task tells the subscribers only while its generation is the current one. Between the check and
the dispatch no handler runs, and a handler that supersedes the session is seen by the next check.
-/

namespace TrafficWatch.Stream.Reader

variable {M H W : Type}

/-- The order of a trace: a task that a call superseded does not begin to tell anything after it. -/
def Mark.Before : Mark M → Mark M → Prop
  | .superseded tasks, .told task _ _ => task ∉ tasks
  | _, _ => True

def Mark.Current : Mark M → Prop
  | .told task _ current => task = current
  | .superseded _ => True

namespace Traced

/-- What holds between any two actions of a run. -/
structure Orderly (s : Traced M H W) : Prop where
  tasks : ∀ t ∈ s.reader.tasks, t.generation ≤ s.reader.generation
  past : ∀ gs, .superseded gs ∈ s.trace → ∀ g ∈ gs, g < s.reader.generation
  current : ∀ m ∈ s.trace, m.Current
  order : s.trace.Pairwise Mark.Before

/-- Readers with the same generation and tasks of the same generations. -/
structure Steady (r r' : Reader M H) : Prop where
  generation : r'.generation = r.generation
  tasks : r'.tasks.map (·.generation) = r.tasks.map (·.generation)

theorem steady_updateTask (r : Reader M H) (g : Nat) {f : Task → Task}
    (hf : ∀ t, (f t).generation = t.generation) : Steady r (r.updateTask g f) where
  generation := rfl
  tasks := by
    simp only [updateTask, List.map_map]
    refine List.map_congr_left fun t _ => ?_
    simp only [Function.comp_apply]
    split <;> simp [hf]

theorem steady_abort (r : Reader M H) (g : Option Nat) : Steady r (r.abort g) := by
  cases g with
  | none => exact ⟨rfl, rfl⟩
  | some g => exact steady_updateTask r g fun _ => rfl

theorem Steady.le {r r' : Reader M H} (h : Steady r r') {n : Nat}
    (hr : ∀ t ∈ r.tasks, t.generation ≤ n) : ∀ t ∈ r'.tasks, t.generation ≤ n := by
  intro t ht
  have hm : t.generation ∈ r.tasks.map (·.generation) := h.tasks ▸ List.mem_map_of_mem ht
  obtain ⟨t', ht', hg⟩ := List.mem_map.mp hm
  exact hg ▸ hr t' ht'

theorem Orderly.on {s : Traced M H W} (h : s.Orderly) {f : Reader M H → Reader M H}
    (hf : Steady s.reader (f s.reader)) : Orderly (s.on f) where
  tasks := by
    simp only [State.on, hf.generation]
    exact hf.le h.tasks
  past gs hgs := by
    simp only [State.on, hf.generation]
    exact h.past gs hgs
  current := h.current
  order := h.order

/-- A task that is current may begin to tell. -/
theorem Orderly.told {s : Traced M H W} (h : s.Orderly) (e : Event M) :
    Orderly (s.mark (.told s.reader.generation e s.reader.generation)) where
  tasks := h.tasks
  past gs hgs := h.past gs (by simpa [mark, trace] using hgs)
  current := by
    rintro m hm
    rcases List.mem_append.mp hm with hm | hm
    · exact h.current m hm
    · rw [List.mem_singleton.mp hm]
      rfl
  order := by
    refine List.pairwise_append.mpr ⟨h.order, List.pairwise_singleton _ _, ?_⟩
    intro m hm m' hm'
    obtain rfl := List.mem_singleton.mp hm'
    cases m with
    | told g e c => trivial
    | superseded gs => exact fun hg => Nat.lt_irrefl _ (h.past gs hm _ hg)

/-- A call that takes over leaves all tasks so far behind. -/
theorem Orderly.superseded {s : Traced M H W} (h : s.Orderly) {f : Reader M H → Reader M H}
    (hg : (f s.reader).generation = s.reader.generation + 1)
    (ht : ∀ t ∈ (f s.reader).tasks, t.generation ≤ s.reader.generation + 1) :
    Orderly (State.on s.supersede f) where
  tasks := by
    have hr : (State.on s.supersede f).reader = f s.reader := rfl
    rwa [hr, hg]
  past gs hgs g hmem := by
    have hr : (State.on s.supersede f).reader = f s.reader := rfl
    rw [hr, hg]
    rcases List.mem_append.mp hgs with hgs | hgs
    · exact Nat.lt_succ_of_lt (h.past gs hgs g hmem)
    · obtain rfl : gs = _ := Mark.superseded.inj (List.mem_singleton.mp hgs)
      obtain ⟨t, ht', rfl⟩ := List.mem_map.mp hmem
      exact Nat.lt_succ_of_le (h.tasks t ht')
  current := by
    intro m hm
    rcases List.mem_append.mp hm with hm | hm
    · exact h.current m hm
    · rw [List.mem_singleton.mp hm]
      trivial
  order := by
    refine List.pairwise_append.mpr ⟨h.order, List.pairwise_singleton _ _, ?_⟩
    intro m hm m' hm'
    obtain rfl := List.mem_singleton.mp hm'
    cases m <;> trivial

end Traced

theorem destroy_generation (r : Reader M H) : r.destroy.generation = r.generation + 1 :=
  (Traced.steady_abort r.supersede.leaveSession r.session.task).generation

theorem destroy_tasks_le (r : Reader M H) {n : Nat} (h : ∀ t ∈ r.tasks, t.generation ≤ n) :
    ∀ t ∈ r.destroy.tasks, t.generation ≤ n :=
  (Traced.steady_abort r.supersede.leaveSession r.session.task).le h

/-- A connect finds the session it is asked for, or starts a task under the next generation. -/
theorem connect_eq (r : Reader M H) (address : String) :
    r.connect address = r ∨ r.connect address = (r.abort r.session.task).start address := by
  unfold connect
  split
  · exact Or.inl rfl
  · split
    · exact Or.inl rfl
    · exact Or.inr rfl

theorem start_generation (r : Reader M H) (g : Option Nat) (address : String) :
    ((r.abort g).start address).generation = r.generation + 1 :=
  congrArg (· + 1) (Traced.steady_abort r g).generation

theorem start_tasks_le (r : Reader M H) (g : Option Nat) (address : String)
    (h : ∀ t ∈ r.tasks, t.generation ≤ r.generation) :
    ∀ t ∈ ((r.abort g).start address).tasks, t.generation ≤ r.generation + 1 := by
  intro t ht
  rcases List.mem_append.mp ht with ht | ht
  · exact Nat.le_succ_of_le ((Traced.steady_abort r g).le h t ht)
  · rw [List.mem_singleton.mp ht]
    exact Nat.le_of_eq (start_generation r g address)

namespace Traced

variable (b : Behaviour M H (Program H W)) (now : Nat) {d : Dispatch M H (W × List (Mark M))}

/-- Under the generations of some kind, a dispatch keeps a trace in order. -/
def Keeps (p : Nat → Prop) (d : Dispatch M H (W × List (Mark M))) : Prop :=
  ∀ e (s s' : Traced M H W), s.Orderly → p s.reader.generation → d e s = some s' → Orderly s'

variable {p : Nat → Prop}

theorem Keeps.reader (hd : Keeps p d) : Reader.Keeps Orderly p d := hd

theorem lasting_orderly : Lasting (fun _ => True) (Orderly : Traced M H W → Prop) where
  aside _ _ h := h.on ⟨rfl, rfl⟩
  task g _ hf _ _ h := h.on (steady_updateTask _ g hf.generation)

theorem Keeps.perform (hd : Keeps (fun _ => True) d) {s s' : Traced M H W} (h : s.Orderly)
    {c : Call H} {r : Reply} (hc : perform b now d c s = some (s', r)) : Orderly s' := by
  cases c with
  | subscribe kind handler | unsubscribe id =>
    obtain ⟨rfl, -⟩ := Prod.mk.inj (Option.some.inj hc)
    exact h.on ⟨rfl, rfl⟩
  | report =>
    obtain ⟨rfl, -⟩ := Prod.mk.inj (Option.some.inj hc)
    exact h
  | destroy =>
    obtain ⟨rfl, -⟩ := Prod.mk.inj (Option.some.inj hc)
    exact h.superseded (destroy_generation s.reader)
      (destroy_tasks_le s.reader fun t ht => Nat.le_succ_of_le (h.tasks t ht))
  | connect address =>
    obtain ⟨rfl, -⟩ := Prod.mk.inj (Option.some.inj hc)
    rcases connect_eq s.reader address with heq | heq
    · have ha : s.announce (.connect address) = s := by simp [announce, heq]
      rw [ha]
      exact h.on (by rw [heq]; exact ⟨rfl, rfl⟩)
    · have hg := start_generation s.reader s.reader.session.task address
      have ha : s.announce (.connect address) = s.supersede := by simp [announce, heq, hg]
      rw [ha]
      exact h.superseded (heq ▸ hg) (heq ▸ start_tasks_le s.reader _ address h.tasks)
  | push frame =>
    obtain ⟨⟨s₁, r₁⟩, h₁, heq⟩ := Option.map_eq_some_iff.mp hc
    cases heq
    exact hd.reader.ingest lasting_orderly h trivial h₁

theorem Keeps.exec (hd : Keeps (fun _ => True) d) (q : Program H W) {s s' : Traced M H W}
    (h : s.Orderly) (he : exec b now d q s = some s') : Orderly s' :=
  exec_beside_keeps (fun _ h => ⟨h.tasks, h.past, h.current, h.order⟩)
    (fun h hc => hd.perform b now h hc) q h he

theorem keeps_dispatch (depth : Nat) : Keeps (fun _ => True) (dispatch b now depth) :=
  keeps_rounds (fun d h e => Traced.exec b now d (b.respond h e)) (fun _ _ => rfl)
    (fun _ _ _ => rfl) (fun _ (hd : Keeps _ _) _ _ _ _ h hs => hd.exec b now _ h hs) depth

theorem keeps_tell (depth g : Nat) : Keeps (· = g) (tell b depth now g) := by
  rintro e s s' h rfl hs
  exact keeps_dispatch b now depth e _ s' (h.told e) trivial hs

theorem Orderly.move {s s' : Traced M H W} (h : s.Orderly) {depth : Nat} {m : Move H W}
    (hs : move b depth now m s = some s') : Orderly s' := by
  cases m with
  | program p => exact (keeps_dispatch b now depth).exec b now p h hs
  | step g jitter w =>
    simp only [Traced.move] at hs
    cases ht : s.reader.task? g with
    | none =>
      rw [ht] at hs
      obtain rfl := Option.some.inj hs
      exact h
    | some t =>
      rw [ht] at hs
      have hg : t.generation = g := by simpa using List.find?_some ht
      subst hg
      exact (keeps_tell b now depth t.generation).reader.resume lasting_orderly (fun _ _ => trivial)
        (fun _ => trivial) h hs

theorem Orderly.run {s s' : Traced M H W} (h : s.Orderly) {depth : Nat}
    {moves : List (Nat × Move H W)} (hs : run b depth moves s = some s') : Orderly s' :=
  foldlM_keeps (fun m _ _ _ h hs => h.move b m.1 hs) h hs

/-- A reader before anything has been asked of it. -/
def fresh (name : String) (config : Config) (own : W) : Traced M H W := ⟨create name config, own, []⟩

theorem orderly_fresh (name : String) (config : Config) (own : W) :
    Orderly (fresh name config own : Traced M H W) :=
  ⟨by simp [fresh, create], by simp [fresh, trace], by simp [fresh, trace], List.Pairwise.nil⟩

/-- Whatever the calls and the steps, and in whatever order: a task begins to tell the subscribers
of something only while its generation is current, and not at all after a call that put an end to
its session, even if a handler made the call in the middle of one of the task's steps. -/
theorem tells_while_current (depth : Nat) (name : String) (config : Config) (own : W)
    (moves : List (Nat × Move H W)) :
    (Traced.run b depth moves (fresh name config own)).map plain =
        Reader.run b depth moves ⟨create name config, own⟩ ∧
      ∀ s, Traced.run b depth moves (fresh name config own) = some s →
        (∀ task e current, .told task e current ∈ s.trace → task = current) ∧
        ∀ before tasks after, s.trace = before ++ .superseded tasks :: after →
          ∀ task e current, .told task e current ∈ after → task ∉ tasks := by
  refine ⟨plain_run b depth moves _, fun s hs => ?_⟩
  have ho := (orderly_fresh name config own).run b hs
  refine ⟨fun task e current hm => ho.current _ hm, ?_⟩
  intro before tasks after heq task e current hm
  have hp := ho.order
  rw [heq] at hp
  have hc := (List.pairwise_append.mp hp).2.1
  exact (List.pairwise_cons.mp hc).1 _ hm

/-- A subscriber that destroys the reader at the first error. -/
def leaving : Behaviour Nat Unit (Program Unit Unit) where
  decode _ := .ok 0
  respond _ _ := .just .destroy

def leavingMoves : List (Nat × Move Unit Unit) := [
  (0, .program (.call (.subscribe .error ()) fun _ => .just (.connect "proxy"))),
  (0, .step 1 0 .turn),
  (1, .step 1 0 (.opened (.ok ()))),
  (2, .step 1 0 (.item (.ok (.text "0")))),
  (3, .step 1 0 (.item (.error (.transport "reset")))),
  (4, .step 1 0 (.item (.ok (.text "0"))))]

theorem tells_no_close_after_leaving :
    ∃ s, Traced.run leaving 2 leavingMoves (fresh "proxy" {} ()) = some s ∧
      s.trace = [.superseded [], .told 1 (.data 0) 1, .told 1 (.error (.transport "reset")) 1,
        .superseded [1]] ∧
      (∀ task e current, .told task e current ∈ s.trace → task = current) ∧
      ∀ before tasks after, s.trace = before ++ .superseded tasks :: after →
        ∀ task e current, .told task e current ∈ after → task ∉ tasks := by
  obtain ⟨s, hs, ht⟩ : ∃ s, Traced.run leaving 2 leavingMoves (fresh "proxy" {} ()) = some s ∧
      s.trace = [.superseded [], .told 1 (.data 0) 1, .told 1 (.error (.transport "reset")) 1,
        .superseded [1]] := ⟨_, rfl, rfl⟩
  exact ⟨s, hs, ht, (tells_while_current leaving 2 "proxy" {} () leavingMoves).2 s hs⟩

end Traced

end TrafficWatch.Stream.Reader
