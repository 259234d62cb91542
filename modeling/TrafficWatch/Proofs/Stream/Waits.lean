import TrafficWatch.Proofs.Stream.OwnState
import TrafficWatch.Proofs.Stream.ScriptedRun
import TrafficWatch.Proofs.Stream.Stages

/-!
When the tasks of a play ask for their transports. A course is any order of steps of the tasks, of
times, of programs that call the reader, and of what the transport has ready; what is done to a play
from outside is a course. What the tasks do about their transports is told beside it, and does not
change it.
-/

namespace TrafficWatch.Stream.Play

variable {M H W : Type}

/-- A play, with what its tasks have done about their transports, each under its generation. -/
structure Chronicle (M H W : Type) where
  play : Play M H W
  log : List (Nat × Deed)

inductive Happening (H W : Type) where
  /-- The task of a generation goes on, if it can. -/
  | goOn (generation : Nat)
  /-- A clock that is set back only adds to the courses. -/
  | clock (now : Nat)
  | program (q : Reader.Program H W)
  | transport (sessions : List Session.Plan)

/-- What the task of a generation has done. -/
def deedsOf (g : Nat) (log : List (Nat × Deed)) : List Deed := (log.filter (·.1 == g)).map (·.2)

namespace Chronicle

variable (b : Behaviour M H (Reader.Program H W)) (depth : Nat)

def create (reader : Reader M H) (own : W) (sessions : List Session.Plan) (jitter : Nat → Rat) :
    Chronicle M H W where
  play := .create reader own sessions jitter
  log := []

/-- A task goes on as in any play. -/
def goOn (t : Task) (c : Chronicle M H W) : Option (Chronicle M H W) :=
  match c.play.wake t with
  | none => some c
  | some (w, p) => do
    let state ← Reader.step b p.now depth (p.jitter p.waits) t w p.state
    let waits := match state.reader.task? t.generation with
      | some ⟨_, _, _, _, .waiting _ _, _⟩ => p.waits + 1
      | _ => p.waits
    let phase := ((state.reader.task? t.generation).map (·.phase)).getD .finished
    some ⟨{ p with state, waits },
      c.log ++ (w.answers p.now ++ phase.begins p.now).map (t.generation, ·)⟩

def happen (h : Happening H W) (c : Chronicle M H W) : Option (Chronicle M H W) :=
  match h with
  | .goOn g =>
    match c.play.state.reader.task? g with
    | none => some c
    | some t => c.goOn b depth t
  | .clock now => some { c with play := { c.play with now } }
  | .program q => do
    let state ← Reader.exec b c.play.now (Reader.dispatch b c.play.now depth) q c.play.state
    some { c with play := { c.play with state } }
  | .transport sessions => some { c with play := { c.play with sessions } }

def course (hs : List (Happening H W)) (c : Chronicle M H W) : Option (Chronicle M H W) :=
  hs.foldlM (fun c h => happen b depth h c) c

end Chronicle

/-! What a task goes on with. -/

theorem le_of_dueTime_le {since now : Nat} {delay : Rat} (h : dueTime since delay ≤ now) :
    (since : Rat) + delay ≤ now := by
  have hdelay : delay ≤ (delay.ceil.toNat : Rat) :=
    Rat.le_ceil.trans (by exact_mod_cast Int.self_le_toNat delay.ceil)
  calc (since : Rat) + delay ≤ since + delay.ceil.toNat := by linarith
    _ = (dueTime since delay : Nat) := by rw [dueTime, Nat.cast_add]
    _ ≤ now := by exact_mod_cast h

/-- A task goes on with what it waits for, and an open is noted when the transport answers. -/
structure Wakes (p p' : Play M H W) (t : Task) (w : Reader.Wake) : Prop where
  state : p'.state = p.state
  now : p'.now = p.now
  jitter : p'.jitter = p.jitter
  waits : p'.waits = p.waits
  suits : w.Suits p.now t.phase
  answers : p'.opened.map (·.2) = p.opened.map (·.2) ++ (w.answers p.now).filterMap Deed.answer?

theorem wakes_of_wake {p p' : Play M H W} {t : Task} {w : Reader.Wake}
    (hw : p.wake t = some (w, p')) : p.Wakes p' t w := by
  obtain ⟨g, address, k, connected, phase, aborted⟩ := t
  cases aborted with
  | true => cases hw
  | false =>
    simp only [wake, Bool.false_eq_true, if_false] at hw
    cases phase with
    | finished => cases hw
    | ready =>
      cases hw
      exact ⟨rfl, rfl, rfl, rfl, .ready, (List.append_nil _).symm⟩
    | waiting since delay =>
      dsimp only at hw
      split at hw
      · next hdue =>
        cases hw
        exact ⟨rfl, rfl, rfl, rfl, .waited (le_of_dueTime_le hdue), (List.append_nil _).symm⟩
      · cases hw
    | opening =>
      dsimp only at hw
      split at hw <;> cases hw <;> exact ⟨rfl, rfl, rfl, rfl, .opened _, List.map_append⟩
    | reading =>
      dsimp only at hw
      repeat' split at hw
      all_goals cases hw
      all_goals exact ⟨rfl, rfl, rfl, rfl, by constructor, (List.append_nil _).symm⟩

/-! What a course keeps. -/

theorem deedsOf_append (g : Nat) (log log' : List (Nat × Deed)) :
    deedsOf g (log ++ log') = deedsOf g log ++ deedsOf g log' := by
  rw [deedsOf, List.filter_append, List.map_append]
  rfl

theorem deedsOf_self (g : Nat) (ds : List Deed) : deedsOf g (ds.map (g, ·)) = ds := by
  have hall : (ds.map (g, ·)).filter (·.1 == g) = ds.map (g, ·) :=
    List.filter_eq_self.mpr fun x hx => by
      obtain ⟨d, -, rfl⟩ := List.mem_map.mp hx
      exact beq_self_eq_true g
  rw [deedsOf, hall, List.map_map]
  exact List.map_id ds

theorem deedsOf_other {g g' : Nat} (hne : g' ≠ g) (ds : List Deed) :
    deedsOf g' (ds.map (g, ·)) = [] := by
  have hnone : (ds.map (g, ·)).filter (·.1 == g') = [] :=
    List.filter_eq_nil_iff.mpr fun x hx => by
      obtain ⟨d, -, rfl⟩ := List.mem_map.mp hx
      simpa using hne.symm
  rw [deedsOf, hnone, List.map_nil]

/-- The deeds of a task that has come to some stage. There are none before it is started. -/
def Leads (k₀ : Backoff) (ds : List Deed) : Option (Phase × Backoff) → Prop
  | none => ds = []
  | some (phase, k) => Task.Lives k₀ ds phase k

theorem Leads.stays {config : Config} {ds : List Deed} {r r' : Reader M H} {g : Nat}
    (h : Leads config.backoff ds (r.stage? g)) (hs : Reader.Stays r r' g)
    (hconfig : r.config = config) : Leads config.backoff ds (r'.stage? g) := by
  rcases hs with hs | ⟨hnone, hnew⟩
  · rwa [hs]
  · rw [hnone] at h
    rw [hnew, hconfig, show ds = [] from h]
    exact .start

namespace Chronicle

/-- What the log of a course says. -/
structure Sound (config : Config) (c : Chronicle M H W) : Prop where
  regular : Reader.Regular c.play.state
  configured : c.play.state.reader.config = config
  jitter : ∀ n, 0 ≤ c.play.jitter n ∧ c.play.jitter n ≤ 1 / 10
  leads : ∀ g, Leads config.backoff (deedsOf g c.log) (c.play.state.reader.stage? g)
  answers : c.log.filterMap (·.2.answer?) = c.play.opened.map (·.2)
  waits : c.log.countP (·.2.isWait) = c.play.waits

variable {b : Behaviour M H (Reader.Program H W)} {depth : Nat} {config : Config}
variable {c c' : Chronicle M H W}

theorem sound_create (name : String) (config : Config) (own : W) (sessions : List Session.Plan)
    {jitter : Nat → Rat} (hjitter : ∀ n, 0 ≤ jitter n ∧ jitter n ≤ 1 / 10) :
    (create (Reader.create name config : Reader M H) own sessions jitter).Sound config where
  regular := ⟨[], Reader.consistent_create name config⟩
  configured := rfl
  jitter := hjitter
  leads _ := rfl
  answers := rfl
  waits := rfl

/-- A wait is told of when it is counted. -/
theorem count_waits (w : Reader.Wake) (now n : Nat) (t? : Option Task) :
    (match t? with
      | some ⟨_, _, _, _, .waiting _ _, _⟩ => n + 1
      | _ => n) = n + (w.answers now ++
        ((t?.map Task.phase).getD Phase.finished).begins now).countP Deed.isWait := by
  have hanswers : (w.answers now).countP Deed.isWait = 0 := by
    cases w with
    | opened result => cases result <;> rfl
    | turn | item i | ended => rfl
  rw [List.countP_append, hanswers, Nat.zero_add]
  cases t? with
  | none => rfl
  | some t =>
    obtain ⟨g, address, k, connected, phase, aborted⟩ := t
    cases phase <;> rfl

/-- What a task begins is no answer. -/
theorem answers_told (g : Nat) (w : Reader.Wake) (now : Nat) (phase : Phase) :
    ((w.answers now ++ phase.begins now).map (g, ·)).filterMap (·.2.answer?) =
      (w.answers now).filterMap Deed.answer? := by
  have hbegins : (phase.begins now).filterMap Deed.answer? = [] := by cases phase <;> rfl
  rw [List.filterMap_map]
  calc (w.answers now ++ phase.begins now).filterMap Deed.answer?
      = (w.answers now).filterMap Deed.answer? ++ (phase.begins now).filterMap Deed.answer? :=
        List.filterMap_append
    _ = (w.answers now).filterMap Deed.answer? := by rw [hbegins, List.append_nil]

theorem Sound.goOn (h : c.Sound config) {t : Task}
    (ht : c.play.state.reader.task? t.generation = some t) (hc : goOn b depth t c = some c') :
    c'.Sound config := by
  unfold Chronicle.goOn at hc
  cases hw : c.play.wake t with
  | none =>
    rw [hw] at hc
    obtain rfl := Option.some.inj hc
    exact h
  | some x =>
    obtain ⟨w, p⟩ := x
    have hwakes := wakes_of_wake hw
    rw [hw] at hc
    obtain ⟨state, hstep, hc⟩ := Option.bind_eq_some_iff.mp hc
    obtain rfl := Option.some.inj hc
    rw [hwakes.state, hwakes.now, hwakes.jitter] at hstep
    have hregular := ((Reader.keeps_regular b c.play.now depth).weaken _).resume
      Reader.lasting_regular (fun _ _ => trivial) (fun _ => trivial) h.regular hstep
    obtain ⟨phase, k, hbrings, hturns⟩ :=
      h.regular.resume (Reader.keeps_kept b c.play.now depth) ht hwakes.suits hstep
    have hphase : ((state.reader.task? t.generation).map (·.phase)).getD .finished = phase := by
      obtain ⟨t', ht', hstage⟩ := Option.map_eq_some_iff.mp hbrings.stage
      rw [ht', Option.map_some, Option.getD_some]
      exact (Prod.mk.inj hstage).1
    have hleads := h.leads t.generation
    rw [Reader.stage?_of_task? ht] at hleads
    exact {
      regular := hregular
      configured := hbrings.config.trans h.configured
      jitter := fun n => hwakes.jitter ▸ h.jitter n
      leads := fun g => by
        rw [deedsOf_append]
        by_cases hg : g = t.generation
        · subst hg
          rw [deedsOf_self, hbrings.stage, hphase, hwakes.now]
          exact .turn hleads (h.jitter _).1 (h.jitter _).2 hturns
        · rw [deedsOf_other hg, List.append_nil]
          exact (h.leads g).stays (hbrings.others g hg) h.configured
      answers := by
        rw [List.filterMap_append, h.answers, answers_told, hwakes.answers, hwakes.now]
      waits := by
        rw [count_waits w p.now, List.countP_append, h.waits, hwakes.waits, List.countP_map]
        rfl }

theorem Sound.happen (h : c.Sound config) {x : Happening H W} (hc : happen b depth x c = some c') :
    c'.Sound config := by
  cases x with
  | goOn g =>
    simp only [Chronicle.happen] at hc
    cases ht : c.play.state.reader.task? g with
    | none =>
      rw [ht] at hc
      obtain rfl := Option.some.inj hc
      exact h
    | some t =>
      rw [ht] at hc
      obtain rfl : t.generation = g := by simpa using List.find?_some ht
      exact h.goOn ht hc
  | clock now | transport sessions =>
    obtain rfl := Option.some.inj hc
    exact ⟨h.regular, h.configured, h.jitter, h.leads, h.answers, h.waits⟩
  | program q =>
    obtain ⟨state, hq, heq⟩ := Option.bind_eq_some_iff.mp hc
    obtain rfl := Option.some.inj heq
    obtain ⟨hregular, hspawns⟩ := Reader.Kept.exec
      (Reader.keeps_kept b c.play.now depth c.play.state.reader) q ⟨h.regular, .refl _⟩ hq
    exact ⟨hregular, hspawns.config.trans h.configured, h.jitter,
      fun g => (h.leads g).stays (hspawns.stays g) h.configured, h.answers, h.waits⟩

theorem Sound.course (h : c.Sound config) {hs : List (Happening H W)}
    (hc : course b depth hs c = some c') : c'.Sound config :=
  Reader.foldlM_keeps (fun _ _ _ _ h hc => h.happen hc) h hc

theorem Sound.paced (h : c.Sound config) (g : Nat) :
    Deed.Paced config.backoff.min config.backoff.max (deedsOf g c.log) := by
  have hleads := h.leads g
  cases hstage : c.play.state.reader.stage? g with
  | none =>
    rw [hstage] at hleads
    rw [show deedsOf g c.log = [] from hleads]
    exact Deed.paced_nil
  | some stage =>
    rw [hstage] at hleads
    exact (Task.Lives.inPace (Backoff.sound_create _ _) rfl hleads).paced

theorem Sound.ends (h : c.Sound config) {t : Task} {g : Nat}
    (ht : c.play.state.reader.task? g = some t) : Task.Ends (deedsOf g c.log) t.phase := by
  have hleads := h.leads g
  rw [Reader.stage?_of_task? ht] at hleads
  exact (Task.Lives.inPace (Backoff.sound_create _ _) rfl hleads).ends

/-- The log tells of all opens and waits, and the waits are as long as they should be. -/
structure Punctual (low high : Nat) (c : Chronicle M H W) : Prop where
  answers : c.log.filterMap (·.2.answer?) = c.play.opened.map (·.2)
  waits : c.log.countP (·.2.isWait) = c.play.waits
  paced : ∀ g, Deed.Paced low high (deedsOf g c.log)
  /-- However many waits there were before. -/
  afterSuccess : ∀ g before time since delay after,
    deedsOf g c.log = before ++ .answered time true :: .waits since delay :: after →
      (low : Rat) ≤ delay ∧ delay ≤ 11 / 10 * low
  unhurried : ∀ g before time after, deedsOf g c.log = before ++ .opens time :: after →
    before = [] ∨ ∃ front since delay, before = front ++ [.waits since delay] ∧
      since + minRetryFloor ≤ time

/-- The task of the session goes on for ever, and asks for the transport once a wait is over. -/
def Persists (b : Behaviour M H (Reader.Program H W)) (depth : Nat) (c : Chronicle M H W) : Prop :=
  ∀ g, c.play.state.reader.session.task = some g → ∃ t, c.play.state.reader.task? g = some t ∧
    t.phase ≠ .finished ∧ Task.Ends (deedsOf g c.log) t.phase ∧
    ∀ since delay, t.phase = .waiting since delay → dueTime since delay ≤ c.play.now →
      ∃ p, happen b depth (.goOn g) c = some ⟨p, c.log ++ [(g, .opens c.play.now)]⟩

theorem Sound.punctual (h : c.Sound config) :
    c.Punctual config.backoff.min config.backoff.max := by
  have hsound : config.backoff.Sound := Backoff.sound_create _ _
  have hrange := hsound.low.trans hsound.high
  refine ⟨h.answers, h.waits, h.paced, fun g _ _ _ _ _ => (h.paced g).after_success hrange, ?_⟩
  intro g before time after hds
  rcases h.paced g before _ after hds with hnil | ⟨front, t, t', success, since, delay, hbefore, hover⟩
  · exact .inl hnil
  · have hmem : .waits since delay ∈ deedsOf g c.log := by
      rw [hds, hbefore]
      simp
    have hdelay : (minRetryFloor : Rat) ≤ delay :=
      le_trans (by exact_mod_cast hsound.floor) ((h.paced g).low_le hrange hmem)
    refine .inr ⟨front ++ [.opens t, .answered t' success], since, delay, by simp [hbefore], ?_⟩
    have htime : ((since + minRetryFloor : Nat) : Rat) ≤ time := by
      push_cast
      linarith
    exact_mod_cast htime

theorem Sound.persists (h : c.Sound config) : c.Persists b depth := by
  intro g hg
  obtain ⟨calls, hregular⟩ := h.regular
  obtain ⟨hcurrent, t, ht, hunfinished, hkept⟩ := hregular.task hg
  refine ⟨t, ht, hunfinished, h.ends ht, fun since delay hphase hdue => ?_⟩
  obtain rfl : t.generation = g := by simpa using List.find?_some ht
  have hw : c.play.wake t = some (.turn, c.play) := by simp [wake, hkept, hphase, hdue]
  have hstage : (c.play.state.reader.updateTask t.generation ({ · with phase := .opening })).task?
      t.generation = some { t with phase := .opening } := by
    rw [Reader.task?_updateTask _ _ _ (f := ({ · with phase := .opening })) fun _ => rfl, ht,
      Option.map_some, if_pos rfl]
  have hstep : Reader.step b c.play.now depth (c.play.jitter c.play.waits) t .turn c.play.state =
      some (c.play.state.on (·.updateTask t.generation ({ · with phase := .opening }))) := by
    simp only [Reader.step, Reader.resume, hphase, if_pos hcurrent]
  simp only [Chronicle.happen, ht, Chronicle.goOn, hw, hstep, Option.bind_eq_bind,
    Option.bind_some, Reader.State.on, hstage]
  exact ⟨_, rfl⟩

/-! What is done from outside is a course. -/

theorem course_append {hs hs' : List (Happening H W)} {c₁ : Chronicle M H W}
    (h : course b depth hs c = some c₁) (h' : course b depth hs' c₁ = some c') :
    course b depth (hs ++ hs') c = some c' := by
  rw [course, List.foldlM_append]
  exact Option.bind_eq_some_iff.mpr ⟨c₁, h, h'⟩

/-- Some course leads from a chronicle to a play. -/
def Comes (b : Behaviour M H (Reader.Program H W)) (depth : Nat) (c : Chronicle M H W)
    (p : Play M H W) : Prop :=
  ∃ hs c', course b depth hs c = some c' ∧ c'.play = p

variable {p p' : Play M H W} {bound : Nat}

theorem Comes.refl (c : Chronicle M H W) : Comes b depth c c.play := ⟨[], c, rfl, rfl⟩

theorem Comes.one {x : Happening H W} (h : happen b depth x c = some c') :
    Comes b depth c c'.play :=
  ⟨[x], c', Option.bind_eq_some_iff.mpr ⟨c', h, rfl⟩, rfl⟩

theorem Comes.trans (hc : c.Sound config) (h : Comes b depth c p)
    (h' : ∀ c₁ : Chronicle M H W, c₁.Sound config → c₁.play = p → Comes b depth c₁ p') :
    Comes b depth c p' := by
  obtain ⟨hs, c₁, hrun, rfl⟩ := h
  obtain ⟨hs', c₂, hrun', rfl⟩ := h' c₁ (hc.course hrun) rfl
  exact ⟨hs ++ hs', c₂, course_append hrun hrun', rfl⟩

theorem Sound.advanceOne (h : c.Sound config)
    (hp : advanceOne b depth c.play = some (some p')) : Comes b depth c p' := by
  unfold Play.advanceOne at hp
  split at hp
  · cases hp
  · next t w p hfound =>
    obtain ⟨t', hmem, hwake⟩ := List.exists_of_findSome?_eq_some hfound
    obtain ⟨⟨w', p₁⟩, hw, heq⟩ := Option.map_eq_some_iff.mp hwake
    cases heq
    obtain ⟨state, hstep, hp'⟩ := Option.bind_eq_some_iff.mp hp
    cases hp'
    obtain ⟨calls, hregular⟩ := h.regular
    have ht : c.play.state.reader.task? t.generation = some t :=
      Reader.task?_of_mem hregular.distinct hmem
    refine ⟨[.goOn t.generation], ?_⟩
    simp only [Chronicle.course, List.foldlM_cons, Chronicle.happen, ht, Chronicle.goOn, hw, hstep]
    exact ⟨_, rfl, rfl⟩

theorem Sound.move (h : c.Sound config) {m : Move H W} (hp : move b depth m c.play = some p') :
    Comes b depth c p' := by
  cases m with
  | goOn =>
    obtain ⟨next, hnext, rfl⟩ := Option.map_eq_some_iff.mp hp
    cases next with
    | none => exact .refl c
    | some p₁ => exact h.advanceOne hnext
  | clock now =>
    obtain rfl := Option.some.inj hp
    exact .one (x := .clock now) rfl
  | run q =>
    obtain ⟨state, hq, rfl⟩ := Option.map_eq_some_iff.mp hp
    exact .one (x := .program q) (Option.bind_eq_some_iff.mpr ⟨state, hq, rfl⟩)

theorem Sound.moves (h : c.Sound config) {ms : List (Move H W)}
    (hp : moves b depth ms c.play = some p') : Comes b depth c p' := by
  induction ms generalizing c with
  | nil =>
    obtain rfl := Option.some.inj hp
    exact .refl c
  | cons m ms ih =>
    obtain ⟨p₁, h₁, hp⟩ := Option.bind_eq_some_iff.mp hp
    exact (h.move h₁).trans h fun c₁ hc₁ heq => ih hc₁ (heq ▸ hp)

theorem Sound.settle (h : c.Sound config) {fuel : Nat} (hp : settle b depth fuel c.play = some p') :
    Comes b depth c p' := by
  obtain ⟨n, hn⟩ := moves_of_settle hp
  exact h.moves hn

theorem Sound.perform (h : c.Sound config) {op : Op H} {reply : Reader.Reply}
    (hp : perform b depth bound op c.play = some (p', reply)) : Comes b depth c p' := by
  cases op with
  | call call =>
    obtain ⟨⟨state, reply'⟩, hcall, heq⟩ := Option.bind_eq_some_iff.mp hp
    cases heq
    refine h.move (m := .run (.just call)) (Option.map_eq_some_iff.mpr ⟨state, ?_, rfl⟩)
    exact Option.bind_eq_some_iff.mpr ⟨(state, reply), hcall, rfl⟩
  | session plan =>
    cases hp
    exact .one (x := .transport (c.play.sessions ++ [plan])) rfl
  | send n items =>
    cases hp
    rw [send_eq]
    exact .one (x := .transport _) rfl
  | finish n =>
    cases hp
    rw [finish_eq]
    exact .one (x := .transport _) rfl
  | pass ms =>
    obtain ⟨p₁, h₁, heq⟩ := Option.map_eq_some_iff.mp hp
    cases heq
    obtain ⟨ms, -, hms⟩ := moves_of_passTo h₁
    exact h.moves hms

theorem Sound.step (h : c.Sound config) {op : Op H} {reply : Reader.Reply}
    (hp : step b depth bound op c.play = some (p', reply)) : Comes b depth c p' := by
  obtain ⟨⟨p₁, reply₁⟩, h₁, hp⟩ := Option.bind_eq_some_iff.mp hp
  obtain ⟨p₂, h₂, heq⟩ := Option.bind_eq_some_iff.mp hp
  cases heq
  exact (h.perform h₁).trans h fun c₁ hc₁ heq => hc₁.settle (heq ▸ h₂)

/-- Whatever the bounds, the transport and the jitters, and in whatever order things happen: before
each of its opens but the first a task waits once, for a time that doubles from the lower to the
upper bound as long as there is no success, and is longer by up to a tenth. After a success the
wait is one of the shortest again, and there is always one. -/
theorem waits_paced (b : Behaviour M H (Reader.Program H W)) (depth : Nat) (name : String)
    (config : Config) (own : W) (sessions : List Session.Plan) {jitter : Nat → Rat}
    (hjitter : ∀ n, 0 ≤ jitter n ∧ jitter n ≤ 1 / 10) (hs : List (Happening H W))
    {c : Chronicle M H W}
    (hc : course b depth hs (create (Reader.create name config) own sessions jitter) = some c) :
    c.Punctual (max config.minRetryMs.toNat 50)
        (max config.maxRetryMs.toNat (max config.minRetryMs.toNat 50)) ∧
      c.Persists b depth ∧
      ∀ bound op p reply, Play.step b depth bound op c.play = some (p, reply) →
        c.Comes b depth p := by
  have h : c.Sound config := (sound_create name config own sessions hjitter).course hc
  exact ⟨h.punctual, h.persists, fun bound op p reply => h.step⟩

/-- A reader without subscribers. -/
def silent : Behaviour Nat Unit (Reader.Program Unit Unit) where
  decode _ := .ok 0
  respond _ _ := .done

/-- The transport refuses twice, and then opens a channel that ends at once. -/
def stumbling : Chronicle Nat Unit Unit :=
  create (Reader.create "proxy" { minRetryMs := 20, maxRetryMs := 120 }) ()
    [.fail "refused", .fail "refused", .channel ⟨[], false⟩] fun _ => 1 / 10

def stumblingCourse : List (Happening Unit Unit) := [
  .program (.just (.connect "proxy")), .goOn 1, .goOn 1,
  .clock 55, .goOn 1, .goOn 1,
  .clock 165, .goOn 1, .goOn 1, .goOn 1,
  .clock 220, .goOn 1]

theorem waits_paced_stumbling :
    ∃ c, course silent 1 stumblingCourse stumbling = some c ∧
      c.log.map (·.2) = [.opens 0, .answered 0 false, .waits 0 55, .opens 55, .answered 55 false,
        .waits 55 110, .opens 165, .answered 165 true, .waits 165 55, .opens 220] ∧
      c.Punctual 50 120 ∧ c.Persists silent 1 ∧
      ∀ bound op p reply, Play.step silent 1 bound op c.play = some (p, reply) →
        c.Comes silent 1 p := by
  have hlog : (course silent 1 stumblingCourse stumbling).map (·.log.map (·.2)) =
      some [.opens 0, .answered 0 false, .waits 0 55, .opens 55, .answered 55 false,
        .waits 55 110, .opens 165, .answered 165 true, .waits 165 55, .opens 220] := by
    decide +kernel
  obtain ⟨c, hc, hlog⟩ := Option.map_eq_some_iff.mp hlog
  have hjitter (n : Nat) : 0 ≤ stumbling.play.jitter n ∧ stumbling.play.jitter n ≤ 1 / 10 :=
    ⟨by norm_num [stumbling, create, Play.create], le_of_eq rfl⟩
  exact ⟨c, hc, hlog, waits_paced silent 1 "proxy" { minRetryMs := 20, maxRetryMs := 120 } () _
    hjitter stumblingCourse hc⟩

end Chronicle

end TrafficWatch.Stream.Play
