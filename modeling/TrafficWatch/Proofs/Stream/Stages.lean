import TrafficWatch.Proofs.Stream.Pacing
import TrafficWatch.Proofs.Stream.SessionCalls

/-!
How far the tasks of a reader are. Whatever programs and subscribers do, the tasks there are stay
where they are, and a task that is new has the schedule of the configuration. A task that goes on
takes one of its turns, while the others stay.
-/

namespace TrafficWatch.Stream

/-- How far a task is, and its schedule. -/
def Task.stage (t : Task) : Phase × Backoff := (t.phase, t.backoff)

/-- What a task does about its transport as it comes to a phase. -/
def Phase.begins (now : Nat) : Phase → List Deed
  | .opening => [.opens now]
  | .waiting since delay => [.waits since delay]
  | .ready | .reading | .finished => []

namespace Reader

variable {M H W : Type}

def stage? (r : Reader M H) (g : Nat) : Option (Phase × Backoff) := (r.task? g).map Task.stage

/-- The task of a generation is where it was, unless it is new. -/
def Stays (r r' : Reader M H) (g : Nat) : Prop :=
  r'.stage? g = r.stage? g ∨ r.stage? g = none ∧ r'.stage? g = some (.ready, r.config.backoff)

/-- New tasks at most. -/
structure Spawns (r r' : Reader M H) : Prop where
  config : r'.config = r.config
  stays : ∀ g, Stays r r' g

/-- One task comes to some stage. -/
structure Brings (g : Nat) (stage : Phase × Backoff) (r r' : Reader M H) : Prop where
  config : r'.config = r.config
  stage : r'.stage? g = some stage
  others : ∀ g', g' ≠ g → Stays r r' g'

variable {r r' r'' : Reader M H} {g : Nat} {stage stage' : Phase × Backoff}

theorem stage?_of_task? {t : Task} (ht : r.task? g = some t) : r.stage? g = some t.stage := by
  rw [stage?, ht, Option.map_some]

theorem task?_updateTask (r : Reader M H) (g g' : Nat) {f : Task → Task}
    (hf : ∀ t, (f t).generation = t.generation) : (r.updateTask g f).task? g' =
      (r.task? g').map fun t => if t.generation = g then f t else t := by
  simp only [task?, updateTask, List.find?_map]
  congr 2
  funext t
  simp only [Function.comp_apply]
  split <;> simp [hf]

theorem stage?_updateTask_of_ne (r : Reader M H) {g' : Nat} (hne : g' ≠ g) {f : Task → Task}
    (hf : ∀ t, (f t).generation = t.generation) : (r.updateTask g f).stage? g' = r.stage? g' := by
  rw [stage?, task?_updateTask r g g' hf, stage?, Option.map_map]
  refine Option.map_congr fun t ht => ?_
  have hg : t.generation = g' := by simpa using List.find?_some ht
  rw [Function.comp_apply, if_neg (hg ▸ hne)]

theorem stage?_updateTask (hstage : r.stage? g = some stage) {f : Task → Task}
    (hf : ∀ t, (f t).generation = t.generation) (hto : ∀ t, t.stage = stage → (f t).stage = stage') :
    (r.updateTask g f).stage? g = some stage' := by
  obtain ⟨t, ht, hs⟩ := Option.map_eq_some_iff.mp hstage
  have hg : t.generation = g := by simpa using List.find?_some ht
  rw [stage?, task?_updateTask r g g hf, ht, Option.map_some, Option.map_some, if_pos hg, hto t hs]

theorem stage?_abort (r : Reader M H) (g : Option Nat) (g' : Nat) :
    (r.abort g).stage? g' = r.stage? g' := by
  cases g with
  | none => rfl
  | some g =>
    rw [abort, stage?, task?_updateTask r g g' (f := ({ · with aborted := true })) fun _ => rfl,
      stage?, Option.map_map]
    congr 1
    funext t
    simp only [Function.comp_apply]
    split <;> rfl

theorem config_abort (r : Reader M H) (g : Option Nat) : (r.abort g).config = r.config := by
  cases g <;> rfl

theorem Stays.trans (h : Stays r r' g) (h' : Stays r' r'' g) (hconfig : r'.config = r.config) :
    Stays r r'' g := by
  rcases h' with h' | ⟨hnone, hnew⟩
  · unfold Stays
    rw [h']
    exact h
  · rcases h with h | ⟨-, h⟩
    · exact .inr ⟨h ▸ hnone, hconfig ▸ hnew⟩
    · rw [h] at hnone
      cases hnone

theorem Spawns.refl (r : Reader M H) : Spawns r r := ⟨rfl, fun _ => .inl rfl⟩

theorem Spawns.trans (h : Spawns r r') (h' : Spawns r' r'') : Spawns r r'' :=
  ⟨h'.config.trans h.config, fun g => (h.stays g).trans (h'.stays g) h.config⟩

theorem Spawns.brings (h : Spawns r r') (hstage : r.stage? g = some stage) :
    Brings g stage r r' where
  config := h.config
  stage := by
    rcases h.stays g with heq | ⟨hnone, -⟩
    · exact heq.trans hstage
    · rw [hnone] at hstage
      cases hstage
  others g' _ := h.stays g'

theorem Brings.spawns (h : Brings g stage r r') (h' : Spawns r' r'') : Brings g stage r r'' where
  config := h'.config.trans h.config
  stage := (h'.brings h.stage).stage
  others g' hne := (h.others g' hne).trans (h'.stays g') h.config

theorem Brings.updateTask (h : Brings g stage r r') {f : Task → Task}
    (hf : ∀ t, (f t).generation = t.generation) (hto : ∀ t, t.stage = stage → (f t).stage = stage') :
    Brings g stage' r (r'.updateTask g f) where
  config := h.config
  stage := stage?_updateTask h.stage hf hto
  others g' hne := by
    unfold Stays
    rw [stage?_updateTask_of_ne r' hne hf]
    exact h.others g' hne

theorem spawns_start (r : Reader M H) (address : String)
    (hbound : ∀ t ∈ r.tasks, t.generation ≤ r.generation) : Spawns r (r.start address) := by
  refine ⟨rfl, fun g => ?_⟩
  have hfind : (r.start address).task? g = (r.task? g).or
      (List.find? (·.generation == g)
        [⟨r.generation + 1, address, r.config.backoff, false, .ready, false⟩]) :=
    List.find?_append
  unfold Stays stage?
  rw [hfind]
  by_cases hg : r.generation + 1 = g
  · subst hg
    have hnone : r.task? (r.generation + 1) = none := by
      refine List.find?_eq_none.mpr fun t ht heq => ?_
      exact Nat.not_succ_le_self _ ((beq_iff_eq.mp heq) ▸ hbound t ht)
    rw [hnone]
    right
    simp [Task.stage]
  · left
    rw [List.find?_singleton, if_neg (by simpa using hg), Option.or_none]

theorem spawns_connect (r : Reader M H) (address : String)
    (hbound : ∀ t ∈ r.tasks, t.generation ≤ r.generation) : Spawns r (r.connect address) := by
  rcases connect_eq r address with heq | heq
  · rw [heq]
    exact .refl r
  · have habort : Spawns r (r.abort r.session.task) :=
      ⟨config_abort r _, fun g => .inl (stage?_abort r _ g)⟩
    have hsteady := Traced.steady_abort r r.session.task
    rw [heq]
    refine habort.trans (spawns_start _ address ?_)
    rw [hsteady.generation]
    exact hsteady.le hbound

theorem spawns_destroy (r : Reader M H) : Spawns r r.destroy :=
  ⟨config_abort r.supersede.leaveSession _, fun g =>
    .inl (stage?_abort r.supersede.leaveSession _ g)⟩

/-! What calls and dispatches do. -/

/-- The session is what some calls have asked for. -/
def Regular (s : State M H W) : Prop := ∃ calls, s.reader.Consistent calls

def Kept (r : Reader M H) (s : State M H W) : Prop := Regular s ∧ Spawns r s.reader

variable {b : Behaviour M H (Program H W)} {now : Nat} {d : Dispatch M H W} {s s' : State M H W}

theorem lasting_regular : Lasting (fun _ => True) (Regular : State M H W → Prop) where
  aside := fun buffer stats ⟨calls, h⟩ => ⟨calls, h.frame rfl h.left buffer stats⟩
  task := fun g _ hf _ hc ⟨calls, h⟩ => ⟨calls, h.updateTask g hf hc⟩

/-- No task moves here, so nothing is asked of the phases that tasks come to. -/
theorem lasting_kept (r : Reader M H) :
    Lasting (fun _ => False) (Kept r : State M H W → Prop) where
  aside buffer stats h := ⟨lasting_regular.aside buffer stats h.1, h.2.config, h.2.stays⟩
  task _ _ _ hq _ _ := (hq ⟨0, "", ⟨0, 0, 0⟩, false, .ready, false⟩).elim

theorem Kept.perform (hd : Keeps (Kept r) (fun _ => True) d) (h : Kept r s) {c : Call H}
    {reply : Reply} (hc : perform b now d c s = some (s', reply)) : Kept r s' := by
  obtain ⟨⟨calls, hs⟩, hspawns⟩ := h
  cases c with
  | subscribe kind handler | unsubscribe id =>
    obtain ⟨rfl, -⟩ := Prod.mk.inj (Option.some.inj hc)
    exact ⟨⟨_, hs.aside (c := .report) rfl _⟩, hspawns.config, hspawns.stays⟩
  | report =>
    obtain ⟨rfl, -⟩ := Prod.mk.inj (Option.some.inj hc)
    exact ⟨⟨calls, hs⟩, hspawns⟩
  | connect address =>
    obtain ⟨rfl, -⟩ := Prod.mk.inj (Option.some.inj hc)
    exact ⟨⟨_, hs.connect address⟩, hspawns.trans (spawns_connect _ address hs.bounded)⟩
  | destroy =>
    obtain ⟨rfl, -⟩ := Prod.mk.inj (Option.some.inj hc)
    exact ⟨⟨_, hs.destroy⟩, hspawns.trans (spawns_destroy _)⟩
  | push frame =>
    obtain ⟨⟨s₁, r₁⟩, h₁, heq⟩ := Option.map_eq_some_iff.mp hc
    cases heq
    exact hd.ingest (lasting_kept r) ⟨⟨calls, hs⟩, hspawns⟩ trivial h₁

theorem Kept.exec (hd : Keeps (Kept r) (fun _ => True) d) (q : Program H W) (h : Kept r s)
    (he : exec b now d q s = some s') : Kept r s' := by
  induction q generalizing s with
  | done =>
    obtain rfl := Option.some.inj he
    exact h
  | look k ih => exact ih _ h he
  | note f k ih =>
    have hs : Kept r { s with own := f s.own } := h
    exact ih hs he
  | call c k ih =>
    obtain ⟨⟨s₁, reply⟩, h₁, h₂⟩ := Option.bind_eq_some_iff.mp he
    exact ih reply (h.perform hd h₁) h₂

theorem keeps_kept (b : Behaviour M H (Program H W)) (now depth : Nat) (r : Reader M H) :
    Keeps (Kept r) (fun _ => True) (dispatch b now depth) :=
  keeps_dispatch fun _ hd _ _ _ _ h hs => Kept.exec hd _ h hs

theorem keeps_regular (b : Behaviour M H (Program H W)) (now depth : Nat) :
    Keeps Regular (fun _ => True) (dispatch b now depth) :=
  fun e s s' h _ hs => (keeps_kept b now depth s.reader e s s' ⟨h, .refl _⟩ trivial hs).1

/-! What a step of a task does. -/

/-- The answer of the transport that a task goes on with. -/
def Wake.answers (now : Nat) : Wake → List Deed
  | .opened (.ok ()) => [.answered now true]
  | .opened (.error _) => [.answered now false]
  | .turn | .item _ | .ended => []

/-- What a task goes on with in each phase. -/
inductive Wake.Suits (now : Nat) : Phase → Wake → Prop where
  | ready : Suits now .ready .turn
  | waited {since : Nat} {delay : Rat} (hover : (since : Rat) + delay ≤ now) :
    Suits now (.waiting since delay) .turn
  | opened (result : Except StreamError Unit) : Suits now .opening (.opened result)
  | item (i : Item) : Suits now .reading (.item i)
  | ended : Suits now .reading .ended

variable {k : Backoff} {phase : Phase} {jitter : Rat}

/-- One task takes a turn, with a wake from which its deeds can be told. -/
def TakesTurn (now : Nat) (jitter : Rat) (g : Nat) (phase : Phase) (k : Backoff)
    (answers : List Deed) (r r' : Reader M H) : Prop :=
  ∃ phase' k', Brings g (phase', k') r r' ∧
    Task.Turns now jitter phase k (answers ++ phase'.begins now) phase' k'

theorem Brings.finish (h : Brings g (phase, k) r s.reader) :
    Brings g (.finished, k) r (finish g s).reader :=
  h.updateTask (fun _ => rfl) fun _ ht => congrArg (Phase.finished, ·) (Prod.mk.inj ht).2

/-- A task whose transport has gone waits, or is behind and ends. -/
theorem Brings.retire (h : Brings g (phase, k) r s.reader) (now : Nat) (jitter : Rat) :
    Brings g (.waiting now (k.delay jitter), k.advance) r (retire now jitter g s).reader ∨
      Brings g (.finished, k) r (retire now jitter g s).reader := by
  unfold Reader.retire
  split
  · refine .inl (h.updateTask (fun _ => rfl) fun t ht => ?_)
    obtain rfl : t.backoff = k := (Prod.mk.inj ht).2
    rfl
  · exact .inr h.finish

theorem Kept.closes (hd : ∀ r, Keeps (Kept r) (fun _ => True) d) (h : Kept r s)
    (hstage : r.stage? g = some (.reading, k)) (hs : closeChannel now d jitter g s = some s') :
    TakesTurn now jitter g .reading k [] r s'.reader := by
  obtain ⟨s₁, h₁, rfl⟩ := Option.map_eq_some_iff.mp hs
  have hkept : Kept r s₁ := ((hd r).weaken _).emit h h₁
  rcases (hkept.2.brings hstage).retire now jitter with hb | hb
  · exact ⟨_, _, hb, .drops⟩
  · exact ⟨_, _, hb, .ends⟩

theorem Kept.receive (hd : ∀ r, Keeps (Kept r) (fun _ => True) d) (h : Kept r s)
    (hstage : r.stage? g = some (.reading, k)) {i : Item}
    (hs : receive b now d jitter g i s = some s') :
    TakesTurn now jitter g .reading k [] r s'.reader := by
  have hreads (hk : Kept r s') : TakesTurn now jitter g .reading k [] r s'.reader :=
    ⟨_, _, hk.2.brings hstage, .reads⟩
  have hingest {text : String} (ht : (Reader.ingest b now d text s).map (·.1) = some s') :
      Kept r s' := by
    obtain ⟨⟨s₁, reply⟩, h₁, rfl⟩ := Option.map_eq_some_iff.mp ht
    exact (hd r).ingest (lasting_kept r) h trivial h₁
  cases i with
  | error e =>
    obtain ⟨s₁, h₁, h₂⟩ := Option.bind_eq_some_iff.mp hs
    have hkept : Kept r s₁ := ((hd r).weaken _).transportError (lasting_kept r) h h₁
    exact hkept.closes hd hstage h₂
  | ok frame =>
    cases frame with
    | text content => exact hreads (hingest hs)
    | close => exact h.closes hd hstage hs
    | binary content =>
      unfold Reader.receive at hs
      cases hu : String.fromUTF8? content with
      | some text => exact hreads (hingest (by simpa only [hu] using hs))
      | none =>
        have hf : Kept r (s.on (·.countFrame content.size)) := (lasting_kept r).aside _ _ h
        exact hreads ((hd r).parseError (lasting_kept r) hf trivial (by simpa only [hu] using hs))

theorem Regular.begins (hd : ∀ r, Keeps (Kept r) (fun _ => True) d) (h : Regular s) {t : Task}
    (hstage : s.reader.stage? t.generation = some (.opening, k))
    (hs : beginSession d t s = some s') :
    TakesTurn now jitter t.generation .opening k [.answered now true] s.reader s'.reader := by
  let f (t : Task) : Task :=
    { t with hasConnected := true, backoff := t.backoff.reset, phase := .reading }
  let s₁ : State M H W := s.on fun r => (r.updateTask t.generation f).noteConnected t.hasConnected
  have hregular : Regular s₁ := lasting_regular.aside _ _
    (lasting_regular.task t.generation (f := f) ⟨fun _ => rfl, fun _ => rfl, fun _ => rfl⟩
      (fun _ => trivial) (fun _ _ => nofun) h)
  have hb : Brings t.generation (.reading, k.reset) s.reader (s.reader.updateTask t.generation f) :=
    ((Spawns.refl s.reader).brings hstage).updateTask (fun _ => rfl) fun t ht =>
      congrArg (Phase.reading, ·) (congrArg Backoff.reset (Prod.mk.inj ht).2)
  have hb₁ : Brings t.generation (.reading, k.reset) s.reader s₁.reader :=
    ⟨hb.config, hb.stage, hb.others⟩
  refine ⟨.reading, k.reset, ?_, .opened⟩
  unfold Reader.beginSession at hs
  dsimp only at hs
  split at hs
  · have hkept : Kept s₁.reader s' := ((hd s₁.reader).weaken _).emit ⟨hregular, .refl _⟩ hs
    exact hb₁.spawns hkept.2
  · obtain rfl := Option.some.inj hs
    exact hb₁

/-- A task that goes on with what it waits for takes one of its turns. -/
theorem Regular.resume (hd : ∀ r, Keeps (Kept r) (fun _ => True) d) (h : Regular s) {t : Task}
    (ht : s.reader.task? t.generation = some t) {w : Wake} (hw : w.Suits now t.phase)
    (hs : resume b now d jitter t w s = some s') :
    TakesTurn now jitter t.generation t.phase t.backoff (w.answers now) s.reader s'.reader := by
  have hkept : Kept s.reader s := ⟨h, .refl _⟩
  have hstage : s.reader.stage? t.generation = some t.stage := stage?_of_task? ht
  have hsame := hkept.2.brings hstage
  have hopening : Brings t.generation (.opening, t.backoff) s.reader
      (s.reader.updateTask t.generation ({ · with phase := .opening })) :=
    hsame.updateTask (fun _ => rfl) fun _ ht => congrArg (Phase.opening, ·) (Prod.mk.inj ht).2
  generalize hphase : t.phase = phase at hw ⊢
  simp only [Task.stage, hphase] at hstage
  unfold Reader.resume at hs
  rw [hphase] at hs
  cases hw with
  | ready =>
    dsimp only at hs
    split at hs
    · cases hs
      exact ⟨_, _, hopening, .begins⟩
    · cases hs
      exact ⟨_, _, hsame.finish, .ends⟩
  | waited hover =>
    dsimp only at hs
    split at hs
    · cases hs
      exact ⟨_, _, hopening, .retries hover⟩
    · cases hs
      exact ⟨_, _, hsame.finish, .ends⟩
  | opened result =>
    cases result with
    | error e =>
      obtain ⟨s₁, h₁, rfl⟩ := Option.map_eq_some_iff.mp hs
      have hk : Kept s.reader s₁ := ((hd s.reader).weaken _).transportError (lasting_kept _) hkept h₁
      rcases (hk.2.brings hstage).retire now jitter with hb | hb
      · exact ⟨_, _, hb, .refused⟩
      · exact ⟨_, _, hb, .late⟩
    | ok u =>
      dsimp only at hs
      split at hs
      · exact h.begins hd hstage hs
      · cases hs
        exact ⟨_, _, hsame.finish, .late⟩
  | item i =>
    dsimp only at hs
    split at hs
    · exact hkept.receive hd hstage hs
    · cases hs
      exact ⟨_, _, hsame.finish, .ends⟩
  | ended => exact hkept.closes hd hstage hs

end Reader

end TrafficWatch.Stream
