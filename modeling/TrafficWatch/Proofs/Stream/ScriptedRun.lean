import TrafficWatch.Proofs.Stream.EventTrace
import TrafficWatch.Text.Lossy

/-!
A watcher of a reader that is played against a scripted transport. Whatever the order of the
task's steps, the passing of time and programs that leave the session alone, it has seen the trace
of the script up to where the task is in it.
-/

namespace TrafficWatch.Stream

variable {M H W : Type}

namespace Play

open Reader

variable {b : Behaviour M H (Reader.Program H W)} {depth : Nat} {p p₁ : Play M H W}
  {t : Task} {script : List Session.Plan}

def reads (p : Play M H W) : Bool := p.state.reader.tasks.any (·.phase == .reading)

/-- The items of a session that have been read. -/
def itemsRead (script : List Session.Plan) (p : Play M H W) (n : Nat) : List Item :=
  match script[n]?, p.channel? n with
  | some (.channel c), some left => c.items.take (c.items.length - left.items.length)
  | _, _ => []

/-- The attempts at a script so far. Only the last may go on. -/
def attempts (script : List Session.Plan) (p : Play M H W) : List Attempt :=
  if p.reads then
    let n := p.opened.length - 1
    Attempt.past script n ++ [.session (p.itemsRead script n) false]
  else Attempt.past script p.opened.length

/-- A transport that has served a script to the one task of a play. -/
structure Serves (script : List Session.Plan) (p : Play M H W) (t : Task) : Prop where
  running : t.aborted = false
  taken : p.taken = List.replicate (min p.opened.length script.length) t.generation
  untouched : ∀ i, p.taken.length ≤ i → p.sessions[i]? = script[i]?

theorem Serves.next (h : p.Serves script t) :
    p.sessions[p.taken.length]? = script[p.opened.length]? := by
  rw [h.untouched _ (Nat.le_refl _), h.taken, List.length_replicate]
  by_cases hn : p.opened.length < script.length
  · rw [Nat.min_eq_left (Nat.le_of_lt hn)]
  · have hle : script.length ≤ p.opened.length := Nat.le_of_not_lt hn
    rw [Nat.min_eq_right hle, List.getElem?_eq_none hle, List.getElem?_eq_none (Nat.le_refl _)]

theorem Serves.channel?_next (h : p.Serves script t) {c : Channel}
    (hs : script[p.opened.length]? = some (.channel c)) :
    p.channel? p.opened.length = some c := by
  have hlt : p.opened.length < script.length := (List.getElem?_eq_some_iff.mp hs).1
  have ht : p.taken.length = p.opened.length := by
    rw [h.taken, List.length_replicate, Nat.min_eq_left (Nat.le_of_lt hlt)]
  have hn := h.next
  rw [ht] at hn
  simp only [channel?, hn, hs]

theorem Serves.refuse (h : p.Serves script t) (hs : script[p.opened.length]? = none)
    (o : String × Nat) : Serves script { p with opened := p.opened ++ [o] } t where
  running := h.running
  taken := by
    have hle : script.length ≤ p.opened.length := List.getElem?_eq_none_iff.mp hs
    have hmin : min (p.opened.length + 1) script.length = min p.opened.length script.length := by
      omega
    simp only [List.length_append, List.length_singleton, hmin, h.taken]
  untouched := h.untouched

theorem Serves.take (h : p.Serves script t) {plan : Session.Plan}
    (hs : script[p.opened.length]? = some plan) (o : String × Nat) :
    Serves script { p with opened := p.opened ++ [o], taken := p.taken ++ [t.generation] } t where
  running := h.running
  taken := by
    have hlt : p.opened.length < script.length := (List.getElem?_eq_some_iff.mp hs).1
    have hmin : min (p.opened.length + 1) script.length = min p.opened.length script.length + 1 := by
      omega
    simp only [List.length_append, List.length_singleton, hmin, h.taken, List.replicate_succ']
  untouched := by
    intro i hi
    rw [List.length_append] at hi
    exact h.untouched i (Nat.le_of_add_right_le hi)

theorem Serves.sessionOf (h : p.Serves script t) {n : Nat} (hn : p.opened.length = n + 1)
    (hlt : n < script.length) : p.sessionOf t.generation = some n := by
  have ht : p.taken = List.replicate n t.generation ++ [t.generation] := by
    rw [h.taken, hn, Nat.min_eq_left hlt, List.replicate_succ']
  simp [Play.sessionOf, ht, List.zipIdx_append]

theorem channel?_setChannel {n : Nat} {c : Channel} (h : p.channel? n = some c) (c' : Channel) :
    (p.setChannel n c').channel? n = some c' := by
  have hn : n < p.sessions.length := by
    by_contra hge
    simp [channel?, List.getElem?_eq_none (Nat.le_of_not_lt hge)] at h
  simp [channel?, setChannel, hn]

theorem Serves.setChannel (h : p.Serves script t) {n : Nat} (hn : n < p.taken.length)
    (c : Channel) : (p.setChannel n c).Serves script t where
  running := h.running
  taken := h.taken
  untouched := by
    intro i hi
    have hne : n ≠ i := Nat.ne_of_lt (Nat.lt_of_lt_of_le hn hi)
    exact (List.getElem?_set_ne hne).trans (h.untouched i hi)

/-- Where the task of a play is in its script, and what the watcher has seen by then. -/
inductive Follows (w : Watcher b) (script : List Session.Plan) (seen : List (Event M))
    (p : Play M H W) (t : Task) : Prop
  | between (phase : t.phase ≠ .reading) (serves : p.Serves script t)
      (connected : t.hasConnected = (Attempt.past script p.opened.length).any Attempt.opened)
      (watched : Watched w p.state t
        (seen ++ b.eventTrace false (Attempt.past script p.opened.length)))
  | reading (phase : t.phase = .reading) (serves : p.Serves script t) (n : Nat) (c : Channel)
      (done left : List Item) (opened : p.opened.length = n + 1)
      (plan : script[n]? = some (.channel c)) (channel : p.channel? n = some ⟨left, c.held⟩)
      (items : c.items = done ++ left) (unclosed : ∀ i ∈ done, i.closes = false)
      (connected : t.hasConnected = true)
      (watched : Watched w p.state t
        (seen ++ b.eventTrace false (Attempt.past script n ++ [.session done false])))

variable {w : Watcher b} {seen : List (Event M)}

theorem Follows.watched (h : p.Follows w script seen t) : ∃ es, Watched w p.state t es := by
  cases h with
  | between _ _ _ hw => exact ⟨_, hw⟩
  | reading _ _ _ _ _ _ _ _ _ _ _ _ hw => exact ⟨_, hw⟩

theorem Follows.attempts (h : p.Follows w script seen t) :
    w.seen p.state.own = seen ++ b.eventTrace false (p.attempts script) := by
  cases h with
  | between phase _ _ watched =>
    have hr : p.reads = false := by simp [reads, watched.tasks, phase]
    rw [watched.seen, Play.attempts, hr, if_neg Bool.false_ne_true]
  | reading phase _ n c done left opened plan channel items _ _ watched =>
    have hr : p.reads = true := by simp [reads, watched.tasks, phase]
    have hi : p.itemsRead script n = done := by
      simp [itemsRead, plan, channel, items]
    simp only [watched.seen, Play.attempts, if_pos hr, opened, Nat.add_sub_cancel, hi]

/-- What does not touch the transport or the task keeps a play where it is. -/
theorem Follows.of_watched (h : p.Follows w script seen t) {s : Reader.State M H W} {now waits : Nat}
    (hs : ∀ es, Watched w p.state t es → Watched w s t es) :
    Follows w script seen { p with state := s, now := now, waits := waits } t := by
  cases h with
  | between phase serves connected watched =>
    exact .between phase ⟨serves.running, serves.taken, serves.untouched⟩ connected (hs _ watched)
  | reading phase serves n c done left opened plan channel items unclosed connected watched =>
    exact .reading phase ⟨serves.running, serves.taken, serves.untouched⟩ n c done left opened plan
      channel items unclosed connected (hs _ watched)

theorem advanceOne_of_idle (ht : p.state.reader.tasks = [t]) (hw : p.wake t = none) :
    advanceOne b depth p = some none := by
  simp only [advanceOne, ht, List.findSome?_cons, hw, Option.map_none, List.findSome?_nil]

theorem advanceOne_of_wake {wake : Wake} {s : Reader.State M H W}
    (ht : p.state.reader.tasks = [t]) (hw : p.wake t = some (wake, p₁))
    (hs : Reader.step b p₁.now depth (p₁.jitter p₁.waits) t wake p₁.state = some s) :
    ∃ waits, advanceOne b depth p = some (some { p₁ with state := s, waits := waits }) := by
  simp only [advanceOne, ht, List.findSome?_cons, hw, Option.map_some, hs, Option.bind_eq_bind,
    Option.bind_some]
  exact ⟨_, rfl⟩

/-- The play goes on, or waits, and the watcher has still seen the trace of the script. -/
def GoesOn (w : Watcher b) (depth : Nat) (script : List Session.Plan) (seen : List (Event M))
    (p : Play M H W) : Prop :=
  ∃ r, advanceOne b depth p = some r ∧ ∀ p' ∈ r, ∃ t', p'.Follows w script seen t'

theorem goesOn_of_idle (ht : p.state.reader.tasks = [t]) (hw : p.wake t = none) :
    p.GoesOn w depth script seen :=
  ⟨none, advanceOne_of_idle ht hw, fun _ h => absurd h (Option.not_mem_none _)⟩

theorem goesOn_of_wake {wake : Wake} {s : Reader.State M H W} (t' : Task)
    (ht : p.state.reader.tasks = [t]) (hw : p.wake t = some (wake, p₁))
    (hs : Reader.step b p₁.now depth (p₁.jitter p₁.waits) t wake p₁.state = some s)
    (hf : ∀ waits, Follows w script seen { p₁ with state := s, waits := waits } t') :
    p.GoesOn w depth script seen := by
  obtain ⟨waits, ha⟩ := advanceOne_of_wake ht hw hs
  refine ⟨_, ha, fun p' hp => ⟨t', ?_⟩⟩
  rw [← Option.some.inj hp]
  exact hf waits

theorem follows_refused (serves : p₁.Serves script t)
    (opened : p₁.opened.length = p.opened.length + 1) {e : StreamError}
    (plan : Attempt.ofPlan script[p.opened.length]? = .refused e)
    (connected : t.hasConnected = (Attempt.past script p.opened.length).any Attempt.opened)
    {s : Reader.State M H W} {now waits : Nat} {jitter : Rat}
    (watched : Watched w s (t.retired now jitter)
      (seen ++ b.eventTrace false (Attempt.past script p.opened.length) ++ [.error e])) :
    Follows w script seen { p₁ with state := s, waits := waits } (t.retired now jitter) := by
  have hpast : Attempt.past script p₁.opened.length =
      Attempt.past script p.opened.length ++ [.refused e] := by
    rw [opened, Attempt.past_succ, plan]
  refine .between Phase.noConfusion ⟨serves.running, serves.taken, serves.untouched⟩ ?_ ?_
  · simp only [hpast, List.any_append, List.any_cons, List.any_nil, Attempt.opened, Bool.or_false]
    exact connected
  · simp only [hpast, b.eventTrace_concat, Behaviour.attemptEvents, ← List.append_assoc]
    exact watched

theorem follows_ended (serves : p₁.Serves script t) {n : Nat} (opened : p₁.opened.length = n + 1)
    {c : Channel} (plan : script[n]? = some (.channel c)) (connected : t.hasConnected = true)
    {done : List Item} {es : List (Event M)}
    (events : b.sessionEvents (! c.held) c.items = b.sessionEvents false done ++ es)
    {s : Reader.State M H W} {now waits : Nat} {jitter : Rat}
    (watched : Watched w s (t.retired now jitter)
      (seen ++ b.eventTrace false (Attempt.past script n ++ [.session done false]) ++ es)) :
    Follows w script seen { p₁ with state := s, waits := waits } (t.retired now jitter) := by
  have hpast : Attempt.past script p₁.opened.length =
      Attempt.past script n ++ [.session c.items (! c.held)] := by
    rw [opened, Attempt.past_succ, plan, Attempt.ofPlan]
  refine .between Phase.noConfusion ⟨serves.running, serves.taken, serves.untouched⟩ ?_ ?_
  · simp only [hpast, List.any_append, List.any_cons, Attempt.opened, Bool.true_or, Bool.or_true]
    exact connected
  · simp only [hpast, b.eventTrace_extend false _ events, ← List.append_assoc]
    exact watched

theorem goesOn_turn (phase : t.phase = .ready ∨ ∃ since delay, t.phase = .waiting since delay)
    (serves : p.Serves script t)
    (connected : t.hasConnected = (Attempt.past script p.opened.length).any Attempt.opened)
    (watched : Watched w p.state t
      (seen ++ b.eventTrace false (Attempt.past script p.opened.length)))
    (hw : p.wake t = some (.turn, p)) : p.GoesOn w depth script seen := by
  obtain ⟨s, hs, hwatched⟩ := watched.step_turn p.now depth (p.jitter p.waits) phase
  exact goesOn_of_wake { t with phase := .opening } watched.tasks hw hs fun waits =>
    .between Phase.noConfusion ⟨serves.running, serves.taken, serves.untouched⟩ connected hwatched

theorem goesOn_opening (phase : t.phase = .opening) (serves : p.Serves script t)
    (connected : t.hasConnected = (Attempt.past script p.opened.length).any Attempt.opened)
    (watched : Watched w p.state t
      (seen ++ b.eventTrace false (Attempt.past script p.opened.length))) :
    p.GoesOn w (depth + 1) script seen := by
  have hnext := serves.next
  let o : String × Nat := (t.address, p.now)
  have ho : (p.opened ++ [o]).length = p.opened.length + 1 := List.length_append
  cases hplan : script[p.opened.length]? with
  | none =>
    obtain ⟨s, hs, hwatched⟩ := watched.step_refused p.now depth (p.jitter p.waits)
      (.transport "connection refused") phase
    have hw : p.wake t = some (.opened (.error (.transport "connection refused")),
        { p with opened := p.opened ++ [o] }) := by
      simp [wake, serves.running, phase, hnext, hplan, o]
    exact goesOn_of_wake _ watched.tasks hw hs fun waits =>
      follows_refused (serves.refuse hplan o) ho (by rw [hplan, Attempt.ofPlan]) connected hwatched
  | some plan =>
    have hserves := serves.take hplan o
    cases plan with
    | fail m =>
      obtain ⟨s, hs, hwatched⟩ :=
        watched.step_refused p.now depth (p.jitter p.waits) (.transport m) phase
      have hw : p.wake t = some (.opened (.error (.transport m)),
          { p with opened := p.opened ++ [o], taken := p.taken ++ [t.generation] }) := by
        simp [wake, serves.running, phase, hnext, hplan, o]
      exact goesOn_of_wake _ watched.tasks hw hs fun waits =>
        follows_refused hserves ho (by rw [hplan, Attempt.ofPlan]) connected hwatched
    | channel c =>
      obtain ⟨s, hs, hwatched⟩ := watched.step_opened p.now depth (p.jitter p.waits) phase
      have hw : p.wake t = some (.opened (.ok ()),
          { p with opened := p.opened ++ [o], taken := p.taken ++ [t.generation] }) := by
        simp [wake, serves.running, phase, hnext, hplan, o]
      have hchannel := serves.channel?_next hplan
      refine goesOn_of_wake t.connected watched.tasks hw hs fun waits => ?_
      refine .reading rfl ⟨hserves.running, hserves.taken, hserves.untouched⟩ p.opened.length c []
        c.items ho hplan hchannel rfl (fun i hi => absurd hi List.not_mem_nil) rfl ?_
      rw [b.eventTrace_concat, Behaviour.attemptEvents, Behaviour.sessionEvents,
        if_neg Bool.false_ne_true, List.append_nil, Bool.false_or, ← connected, ← List.append_assoc]
      exact hwatched

theorem goesOn_reading (phase : t.phase = .reading) (serves : p.Serves script t) {n : Nat}
    {c : Channel} {done left : List Item} (opened : p.opened.length = n + 1)
    (plan : script[n]? = some (.channel c)) (channel : p.channel? n = some ⟨left, c.held⟩)
    (items : c.items = done ++ left) (unclosed : ∀ i ∈ done, i.closes = false)
    (connected : t.hasConnected = true)
    (watched : Watched w p.state t
      (seen ++ b.eventTrace false (Attempt.past script n ++ [.session done false]))) :
    p.GoesOn w (depth + 1) script seen := by
  have hlt : n < script.length := (List.getElem?_eq_some_iff.mp plan).1
  have hsession := serves.sessionOf opened hlt
  cases left with
  | nil =>
    cases hheld : c.held with
    | true =>
      have hw : p.wake t = none := by
        simp [wake, serves.running, phase, hsession, channel, hheld]
      exact goesOn_of_idle watched.tasks hw
    | false =>
      have hw : p.wake t = some (.ended, p) := by
        simp [wake, serves.running, phase, hsession, channel, hheld]
      obtain ⟨s, hs, hwatched⟩ := watched.step_ended p.now depth (p.jitter p.waits) phase
      refine goesOn_of_wake _ watched.tasks hw hs fun waits =>
        follows_ended serves opened plan connected ?_ hwatched
      rw [items, b.sessionEvents_append _ [] unclosed, hheld, Behaviour.sessionEvents]
      rfl
  | cons i left =>
    have hw : p.wake t = some (.item i, p.setChannel n ⟨left, c.held⟩) := by
      simp [wake, serves.running, phase, hsession, channel]
    have htaken : n < p.taken.length := by
      rw [serves.taken, List.length_replicate, opened, Nat.min_eq_left hlt]
      exact Nat.lt_succ_self n
    have hserves := serves.setChannel htaken ⟨left, c.held⟩
    obtain ⟨s, hs, hwatched⟩ := watched.step_item p.now depth (p.jitter p.waits) i phase
    cases hi : i.closes with
    | true =>
      rw [hi, if_pos rfl] at hwatched
      refine goesOn_of_wake _ watched.tasks hw hs fun waits =>
        follows_ended hserves opened plan connected ?_ hwatched
      rw [items, b.sessionEvents_closing _ left unclosed hi]
    | false =>
      rw [hi, if_neg Bool.false_ne_true] at hwatched
      have hdone : ∀ j ∈ done ++ [i], j.closes = false := by
        intro j hj
        rcases List.mem_append.mp hj with hj | hj
        · exact unclosed j hj
        · rw [List.mem_singleton.mp hj]
          exact hi
      have hevents := b.sessionEvents_concat unclosed hi
      refine goesOn_of_wake t watched.tasks hw hs fun waits => ?_
      refine .reading phase ⟨hserves.running, hserves.taken, hserves.untouched⟩ n c (done ++ [i])
        left opened plan (channel?_setChannel channel _) ?_ hdone connected ?_
      · rw [items, List.append_assoc]
        rfl
      · rw [b.eventTrace_extend false _ hevents, ← List.append_assoc]
        exact hwatched

theorem Follows.goesOn (h : p.Follows w script seen t) (depth : Nat) :
    p.GoesOn w (depth + 1) script seen := by
  cases h with
  | reading phase serves n c done left opened plan channel items unclosed connected watched =>
    exact goesOn_reading phase serves opened plan channel items unclosed connected watched
  | between phase serves connected watched =>
    cases ht : t.phase with
    | ready =>
      have hw : p.wake t = some (.turn, p) := by simp [wake, serves.running, ht]
      exact goesOn_turn (.inl ht) serves connected watched hw
    | opening => exact goesOn_opening ht serves connected watched
    | reading => exact absurd ht phase
    | waiting since delay =>
      by_cases hdue : dueTime since delay ≤ p.now
      · have hw : p.wake t = some (.turn, p) := by simp [wake, serves.running, ht, hdue]
        exact goesOn_turn (.inr ⟨since, delay, ht⟩) serves connected watched hw
      · have hw : p.wake t = none := by simp [wake, serves.running, ht, hdue]
        exact goesOn_of_idle watched.tasks hw
    | finished =>
      have hw : p.wake t = none := by simp [wake, serves.running, ht]
      exact goesOn_of_idle watched.tasks hw

/-- What can happen between a connect and whatever ends its session. -/
inductive Move (H W : Type) where
  /-- The task goes on, if it can. -/
  | goOn
  | clock (now : Nat)
  | run (program : Reader.Program H W)

def move (b : Behaviour M H (Reader.Program H W)) (depth : Nat) (m : Move H W)
    (p : Play M H W) : Option (Play M H W) :=
  match m with
  | .goOn => (advanceOne b depth p).map (·.getD p)
  | .clock now => some { p with now := now }
  | .run program =>
    (Reader.exec b p.now (Reader.dispatch b p.now depth) program p.state).map
      fun s => { p with state := s }

def moves (b : Behaviour M H (Reader.Program H W)) (depth : Nat) (ms : List (Move H W))
    (p : Play M H W) : Option (Play M H W) :=
  ms.foldlM (fun p m => move b depth m p) p

theorem moves_cons {m : Move H W} {ms : List (Move H W)} {p' : Play M H W}
    (hm : move b depth m p = some p₁) (hms : moves b depth ms p₁ = some p') :
    moves b depth (m :: ms) p = some p' :=
  Option.bind_eq_some_iff.mpr ⟨p₁, hm, hms⟩

theorem moves_append {ms ns : List (Move H W)} {p' : Play M H W}
    (hm : moves b depth ms p = some p₁) (hn : moves b depth ns p₁ = some p') :
    moves b depth (ms ++ ns) p = some p' := by
  rw [moves, List.foldlM_append]
  exact Option.bind_eq_some_iff.mpr ⟨p₁, hm, hn⟩

/-- Settling is to go on some number of times. -/
theorem moves_of_settle {fuel : Nat} {p' : Play M H W} (h : settle b depth fuel p = some p') :
    ∃ n, moves b depth (List.replicate n .goOn) p = some p' := by
  induction fuel generalizing p with
  | zero => exact absurd h (Option.some_ne_none p').symm
  | succ fuel ih =>
    obtain ⟨r, hr, hp⟩ := Option.bind_eq_some_iff.mp h
    cases r with
    | none => exact ⟨0, hp⟩
    | some p₁ =>
      obtain ⟨n, hn⟩ := ih hp
      have hm : move b depth .goOn p = some p₁ := by rw [move, hr]; rfl
      exact ⟨n + 1, moves_cons hm hn⟩

/-- When time passes, the task goes on and the clock is set, and nothing else happens. -/
theorem moves_of_passTo {bound limit fuel : Nat} {p' : Play M H W}
    (h : passTo b depth bound limit fuel p = some p') :
    ∃ ms, (∀ m ∈ ms, m = .goOn ∨ ∃ now, m = .clock now) ∧ moves b depth ms p = some p' := by
  induction fuel generalizing p with
  | zero => exact absurd h (Option.some_ne_none p').symm
  | succ fuel ih =>
    rw [passTo] at h
    cases hdue : p.nextDue limit with
    | none =>
      rw [hdue] at h
      exact ⟨[.clock limit], by simp, h⟩
    | some due =>
      rw [hdue] at h
      obtain ⟨p₁, hp₁, hp'⟩ := Option.bind_eq_some_iff.mp h
      obtain ⟨n, hn⟩ := moves_of_settle hp₁
      obtain ⟨ms, hms, hrun⟩ := ih hp'
      refine ⟨.clock (max p.now due) :: (List.replicate n .goOn ++ ms), ?_,
        moves_cons rfl (moves_append hn hrun)⟩
      intro m hm
      rcases List.mem_cons.mp hm with rfl | hm
      · exact .inr ⟨_, rfl⟩
      · rcases List.mem_append.mp hm with hm | hm
        · exact .inl (List.eq_of_mem_replicate hm)
        · exact hms m hm

def Move.Quiet (w : Watcher b) : Move H W → Prop
  | .goOn | .clock _ => True
  | .run program => w.Quiet program

theorem Follows.move (h : p.Follows w script seen t) (depth : Nat) {m : Move H W}
    (hm : m.Quiet w) :
    ∃ p' t', move b (depth + 1) m p = some p' ∧ p'.Follows w script seen t' := by
  cases m with
  | goOn =>
    obtain ⟨r, hr, hf⟩ := h.goesOn depth
    cases r with
    | none => exact ⟨p, t, by rw [Play.move, hr]; rfl, h⟩
    | some p' =>
      obtain ⟨t', ht⟩ := hf p' rfl
      exact ⟨p', t', by rw [Play.move, hr]; rfl, ht⟩
  | clock now => exact ⟨_, t, rfl, h.of_watched fun _ hw => hw⟩
  | run program =>
    obtain ⟨es, hw⟩ := h.watched
    obtain ⟨s, hs, -⟩ := hw.exec_quiet p.now (Reader.dispatch b p.now (depth + 1)) hm
    refine ⟨{ p with state := s }, t, Option.map_eq_some_iff.mpr ⟨s, hs, rfl⟩, h.of_watched ?_⟩
    intro es' hw'
    obtain ⟨s', hs', hw'⟩ := hw'.exec_quiet p.now (Reader.dispatch b p.now (depth + 1)) hm
    rw [Option.some.inj (hs.symm.trans hs')]
    exact hw'

theorem Follows.moves (h : p.Follows w script seen t) (depth : Nat) {ms : List (Move H W)}
    (hms : ∀ m ∈ ms, m.Quiet w) :
    ∃ p' t', moves b (depth + 1) ms p = some p' ∧ p'.Follows w script seen t' := by
  induction ms generalizing p t with
  | nil => exact ⟨p, t, rfl, h⟩
  | cons m ms ih =>
    obtain ⟨p₁, t₁, hm, h₁⟩ := h.move depth (hms m List.mem_cons_self)
    obtain ⟨p', t', hrun, h'⟩ := ih h₁ fun m hm => hms m (List.mem_cons_of_mem _ hm)
    exact ⟨p', t', moves_cons hm hrun, h'⟩

theorem follows_connect (script : List Session.Plan) {r : Reader M H} (own : W)
    (jitter : Nat → Rat) (address : String) (executor : r.executor = true) (fresh : r.tasks = [])
    (registered : w.Registered r.registry) :
    ∃ t, Follows w script (w.seen own) (create (r.connect address) own script jitter) t := by
  have hactive : r.isActive = false := by
    cases ht : r.session.task <;> simp [isActive, task?, ht, fresh]
  have hconnect : r.connect address = (r.abort r.session.task).start address := by
    simp [connect, executor, hactive]
  have habort : (r.abort r.session.task).tasks = [] ∧
      (r.abort r.session.task).registry = r.registry := by
    cases r.session.task <;> simp [abort, updateTask, fresh]
  rw [hconnect]
  let r' := r.abort r.session.task
  refine ⟨⟨r'.generation + 1, address, r'.config.backoff, false, .ready, false⟩,
    .between Phase.noConfusion ⟨rfl, ?_, fun i _ => rfl⟩ rfl ⟨rfl, ?_, ?_, ?_⟩⟩
  · simp only [create, List.length_nil, Nat.zero_min, List.replicate_zero]
  · simp only [create, start, habort.1, List.nil_append, r']
  · simpa only [create, start, habort.2] using registered
  · exact (List.append_nil _).symm

/-- Frames of text and of its bytes do the same. -/
theorem receive_toUTF8 (b : Behaviour M H (Reader.Program H W)) (now : Nat)
    (dispatch : Dispatch M H W) (jitter : Rat) (generation : Nat) (text : String) :
    receive b now dispatch jitter generation (.ok (.binary text.toUTF8)) =
      receive b now dispatch jitter generation (.ok (.text text)) := by
  funext s
  simp only [receive, Text.fromUTF8?_toUTF8]

/-- At every point of a run that one connect has begun, the watcher has seen the trace of the
script. -/
theorem seen_eq_eventTrace (w : Watcher b) (depth : Nat) (script : List Session.Plan)
    {r : Reader M H} (own : W) (jitter : Nat → Rat) (address : String) (ms : List (Move H W))
    (executor : r.executor = true) (fresh : r.tasks = []) (registered : w.Registered r.registry)
    (quiet : ∀ m ∈ ms, m.Quiet w) :
    (∃ p, moves b (depth + 1) ms (create (r.connect address) own script jitter) = some p ∧
      w.seen p.state.own = w.seen own ++ b.eventTrace false (p.attempts script)) ∧
    (∀ ended items i rest, Item.closes i = true →
      b.sessionEvents ended (items ++ i :: rest) = b.sessionEvents ended (items ++ [i])) ∧
    ∀ now dispatch jitter generation text,
      receive b now dispatch jitter generation (.ok (.binary text.toUTF8)) =
        receive b now dispatch jitter generation (.ok (.text text)) := by
  refine ⟨?_, fun ended items i rest hi => b.sessionEvents_after ended items rest hi,
    receive_toUTF8 b⟩
  obtain ⟨t, hstart⟩ := follows_connect script own jitter address executor fresh registered
  obtain ⟨p, t', hp, hfollows⟩ := hstart.moves depth quiet
  exact ⟨p, hp, hfollows.attempts⟩

/-- Empty frames are malformed. The handler `true` writes down what it hears; the other one hears
one message and leaves. -/
def logging : Behaviour String Bool (Reader.Program Bool (List (Event String))) where
  decode text := if text = "" then .error .encoding else .ok text
  respond
    | true, e => .note (· ++ [e]) .done
    | false, _ => .just (.unsubscribe ⟨.data, 5⟩)

def logger : Watcher logging where
  handler := true
  ids := [⟨.data, 1⟩, ⟨.error, 2⟩, ⟨.close, 3⟩, ⟨.reconnect, 4⟩]
  seen log := log
  log e log := log ++ [e]
  respond _ := rfl
  seen_log _ _ := rfl
  others
    | true, _, hne => absurd rfl hne
    | false, _, _ => ⟨by simp [Call.Harmless], fun _ => trivial⟩

def loggedReader : Reader String Bool :=
  { (Reader.create "log" {} : Reader String Bool) with
    registry := ⟨[(⟨.data, 1⟩, true), (⟨.error, 2⟩, true), (⟨.close, 3⟩, true),
      (⟨.reconnect, 4⟩, true), (⟨.data, 5⟩, false)], 6⟩ }

theorem logger_registered : logger.Registered loggedReader.registry := by
  intro kind
  cases kind with
  | data => exact ⟨⟨.data, 1⟩, by decide, [], [(⟨.data, 5⟩, false)], rfl, by decide⟩
  | error => exact ⟨⟨.error, 2⟩, by decide, [], [], rfl, by decide⟩
  | close => exact ⟨⟨.close, 3⟩, by decide, [], [], rfl, by decide⟩
  | reconnect => exact ⟨⟨.reconnect, 4⟩, by decide, [], [], rfl, by decide⟩

/-- A refused open, a channel that the peer closes, one that fails, and one that stays open. -/
def roughScript : List Session.Plan := [
  .fail "down",
  .channel ⟨[.ok (.text "a"), .ok (.binary "".toUTF8), .ok .close, .ok (.text "b")], false⟩,
  .channel ⟨[.ok (.binary "c".toUTF8), .error (.transport "reset"), .ok .close], true⟩,
  .channel ⟨[.ok (.text "d")], true⟩]

def roughMoves : List (Move Bool (List (Event String))) :=
  (List.range 16).flatMap fun n => [.goOn, .clock (n * 2000), .run (.just .report)]

theorem seen_of_roughScript :
    loggedReader.executor = true ∧ loggedReader.tasks = [] ∧
      logger.Registered loggedReader.registry ∧ (∀ m ∈ roughMoves, m.Quiet logger) ∧
      ∃ p, moves logging 1 roughMoves
          (create (loggedReader.connect "proxy") [] roughScript fun _ => 0) = some p ∧
        p.state.own = logging.eventTrace false (p.attempts roughScript) ∧
        p.state.own = [.error (.transport "down"), .data "a", .error (.parse .encoding), .close,
          .reconnect, .data "c", .error (.transport "reset"), .close, .reconnect, .data "d"] := by
  have hquiet : ∀ m ∈ roughMoves, m.Quiet logger := by
    intro m hm
    obtain ⟨n, -, hm⟩ := List.mem_flatMap.mp hm
    simp only [List.mem_cons, List.not_mem_nil, or_false] at hm
    rcases hm with rfl | rfl | rfl
    · trivial
    · trivial
    · exact ⟨trivial, fun _ => trivial⟩
  obtain ⟨⟨p, hp, hs⟩, -, -⟩ := seen_eq_eventTrace logger 0 roughScript [] (fun _ => 0) "proxy"
    roughMoves rfl rfl logger_registered hquiet
  have hown : (moves logging 1 roughMoves
      (create (loggedReader.connect "proxy") [] roughScript fun _ => 0)).map (·.state.own) =
      some [.error (.transport "down"), .data "a", .error (.parse .encoding), .close,
        .reconnect, .data "c", .error (.transport "reset"), .close, .reconnect, .data "d"] := by
    decide +kernel
  rw [hp] at hown
  exact ⟨rfl, rfl, logger_registered, hquiet, p, hp, hs, Option.some.inj hown⟩

end Play

end TrafficWatch.Stream
