import TrafficWatch.Monitor
import TrafficWatch.Proofs.Stream.Interleaving
import TrafficWatch.Proofs.Stream.Watching
import TrafficWatch.Proofs.Tracking.Restarts

/-!
A store behind a stream whose transport comes and goes. However the snapshots are spread over
sessions, and whatever is lost or malformed between them, the store hears each of them once, at its
time and in order.
-/

open TrafficWatch.Stream TrafficWatch.Tracking

namespace TrafficWatch

/-- What comes of the transport next. -/
inductive Yield where
  | refused (e : StreamError)
  | opened
  | item (i : Item)
  /-- The channel has no more items. -/
  | ended

/-- Something that comes of the transport at some time. The jitter is for the wait that it may lead
to. -/
structure Arrival where
  clock : Nat
  moment : Moment
  jitter : Rat
  yield : Yield

namespace Arrival

/-- What lets the task go on. It takes its turn to open the transport just before it has opened it,
or has failed to. -/
def wakes (x : Arrival) : List Reader.Wake :=
  match x.yield with
  | .refused e => [.turn, .opened (.error e)]
  | .opened => [.turn, .opened (.ok ())]
  | .item i => [.item i]
  | .ended => [.ended]

def moves (x : Arrival) : List (Nat × Reader.Move Reaction Monitor) :=
  (x.clock, .program (.note ({ · with moment := x.moment }) .done)) ::
    x.wakes.map fun w => (x.clock, .step 1 x.jitter w)

end Arrival

inductive Link where
  /-- It has not been open yet. -/
  | fresh
  | reading
  /-- It has been open, and is to be opened again. -/
  | down
deriving DecidableEq, Repr

namespace Link

def after : Link → Yield → Link
  | _, .opened => .reading
  | .reading, .item i => if i.closes then .down else .reading
  | .reading, .ended => .down
  | l, _ => l

/-- The snapshot that an item holds, if it can be read. -/
def snapshot? : Item → Option Wire.Snapshot
  | .ok (.text content) => (Monitor.behaviour.decode content).toOption
  | .ok (.binary content) =>
    (String.fromUTF8? content).bind fun text => (Monitor.behaviour.decode text).toOption
  | .ok .close | .error _ => none

/-- What the store is to hear. What comes while nothing is open counts for nothing. -/
def hears (l : Link) (x : Arrival) : List Store.Heard :=
  match l, x.yield with
  | .down, .opened => [.restart]
  | .reading, .item i => (snapshot? i).toList.map (.snapshot · x.moment.time x.moment.work)
  | _, _ => []

def heard (l : Link) : List Arrival → List Store.Heard
  | [] => []
  | x :: xs => l.hears x ++ (l.after x.yield).heard xs

theorem heard_append (l : Link) (xs ys : List Arrival) :
    ∃ l' : Link, l.heard (xs ++ ys) = l.heard xs ++ l'.heard ys := by
  induction xs generalizing l with
  | nil => exact ⟨l, rfl⟩
  | cons x xs ih =>
    obtain ⟨l', h⟩ := ih (l.after x.yield)
    exact ⟨l', by rw [List.cons_append, heard, h, heard, List.append_assoc]⟩

end Link

/-- The snapshots of a script, each with its time. -/
def deliveries (xs : List Arrival) : List (Time.Instant × Wire.Snapshot) :=
  Store.feeds (Link.fresh.heard xs)

theorem deliveries_mono {xs ys : List Arrival} (h : xs <+: ys) :
    deliveries xs <+: deliveries ys := by
  obtain ⟨rest, rfl⟩ := h
  obtain ⟨l, hl⟩ := Link.fresh.heard_append xs rest
  refine ⟨Store.feeds (l.heard rest), ?_⟩
  simp only [deliveries, hl, Store.feeds, List.filterMap_append]

def reconnects (xs : List Arrival) : Nat := Store.restarts (Link.fresh.heard xs)

namespace Pipeline

def wiring : Registry Reaction :=
  ((Registry.empty.subscribe .data .feed).1.subscribe .reconnect .noteRestart).1

def started (name : String) (c : Stream.Config) (settings : SettingsStore) (m : Moment)
    (address : String) : Pipeline :=
  (create name c (.create settings) m).on (·.connect address)

/-- A pipeline once a script of the transport has been played to it. -/
def played (p : Pipeline) (depth : Nat) (xs : List Arrival) : Option Pipeline :=
  Reader.run Monitor.behaviour depth (xs.flatMap Arrival.moves) p

def heardOf (m : Moment) : Event Wire.Snapshot → Option Store.Heard
  | .data s => some (.snapshot s m.time m.work)
  | .reconnect => some .restart
  | .error _ | .close => none

/-- What the subscribers make of events that come at one moment. -/
def account (d : Files.Disk) (s : Store) (m : Moment) (es : List (Event Wire.Snapshot))
    (r : Registry Reaction) (own : Monitor) : Prop :=
  r = wiring ∧ own.moment = m ∧ own.store = s.hear d (es.filterMap (heardOf m))

variable {d : Files.Disk} {s : Store} {m : Moment} {p : Pipeline} {t : Task} {l : Link}
  {es : List (Event Wire.Snapshot)}

/-- The subscribers note an event and do no more. -/
theorem dispatch_wiring (now depth : Nat) (e : Event Wire.Snapshot)
    (hwiring : p.reader.registry = wiring) :
    ∃ own : Monitor, Reader.dispatch Monitor.behaviour now (depth + 1) e p = some { p with own } ∧
      own.moment = p.own.moment ∧
      own.store = p.own.store.hear d (heardOf p.own.moment e).toList := by
  simp only [Reader.dispatch, hwiring]
  cases e with
  | data snapshot => exact ⟨p.own.feed snapshot, rfl, rfl, rfl⟩
  | reconnect => exact ⟨p.own.noteRestart, rfl, rfl, rfl⟩
  | error _ | close => exact ⟨p.own, rfl, rfl, rfl⟩

theorem keepsUp_account (d : Files.Disk) (s : Store) (m : Moment) :
    Reader.KeepsUp Monitor.behaviour (account d s m) := by
  intro now depth e p t es h
  obtain ⟨hwiring, rfl, hstore⟩ := h.kept
  obtain ⟨own, hown, hmoment, hheard⟩ := dispatch_wiring (d := d) now depth e hwiring
  refine ⟨_, hown, h.generation, h.tasks, hwiring, hmoment, ?_⟩
  rw [hheard, hstore, List.filterMap_append, Store.hear_append]
  cases e <;> rfl

/-- A task that waits for what the transport may come to next. -/
structure Awaits (t : Task) (l : Link) : Prop where
  first : t.generation = 1
  connected : t.hasConnected = (l != .fresh)
  reading : l = .reading → t.phase = .reading
  down : l ≠ .reading → t.phase = .ready ∨ ∃ since delay, t.phase = .waiting since delay

structure Stands (p : Pipeline) (l : Link) (t : Task) (s : Store) : Prop where
  generation : p.reader.generation = t.generation
  tasks : p.reader.tasks = [t]
  wiring : p.reader.registry = wiring
  store : p.own.store = s
  awaits : Awaits t l

variable {t' : Task} {p' : Pipeline} {now depth : Nat} {jitter : Rat}

theorem stands_of_attended (h : Reader.Attended (account d s m) p t es) (ht : Awaits t l) :
    Stands p l t (s.hear d (es.filterMap (heardOf m))) :=
  ⟨h.generation, h.tasks, h.kept.1, h.kept.2.2, ht⟩

theorem Stands.attended (h : Stands p l t s) (d : Files.Disk) :
    Reader.Attended (account d s p.own.moment) p t [] :=
  ⟨h.generation, h.tasks, h.wiring, rfl, h.store⟩

theorem Stands.setMoment (h : Stands p l t s) (m : Moment) : Stands (p.setMoment m) l t s :=
  ⟨h.generation, h.tasks, h.wiring, h.store, h.awaits⟩

theorem Awaits.retired (h : Awaits t l) (l' : Link) (hl : l' ≠ .reading)
    (hfresh : (l' != .fresh) = (l != .fresh)) (now : Nat) (jitter : Rat) :
    Awaits (t.retired now jitter) l' where
  first := h.first
  connected := h.connected.trans hfresh.symm
  reading hr := absurd hr hl
  down _ := Or.inr ⟨_, _, rfl⟩

theorem Awaits.opened (h : Awaits t l) : Awaits t.connected .reading where
  first := h.first
  connected := rfl
  reading _ := rfl
  down hr := absurd rfl hr

def woken (p : Pipeline) (depth now : Nat) (jitter : Rat) (ws : List Reader.Wake) :
    Option Pipeline :=
  Reader.run Monitor.behaviour depth (ws.map fun w => (now, .step 1 jitter w)) p

theorem move_step (htasks : p.reader.tasks = [t]) (hfirst : t.generation = 1) (w : Reader.Wake) :
    Reader.move Monitor.behaviour depth now (.step 1 jitter w) p =
      Reader.step Monitor.behaviour now depth jitter t w p := by
  have ht : p.reader.task? 1 = some t := by simp [Reader.task?, htasks, hfirst]
  simp only [Reader.move, ht]

theorem woken_cons (htasks : p.reader.tasks = [t]) (hfirst : t.generation = 1) (w : Reader.Wake)
    (ws : List Reader.Wake) :
    woken p depth now jitter (w :: ws) =
      (Reader.step Monitor.behaviour now depth jitter t w p).bind
        fun p' => woken p' depth now jitter ws := by
  rw [← move_step htasks hfirst]
  rfl

theorem woken_one (htasks : p.reader.tasks = [t]) (hfirst : t.generation = 1) (w : Reader.Wake) :
    woken p depth now jitter [w] = Reader.step Monitor.behaviour now depth jitter t w p := by
  rw [woken_cons htasks hfirst]
  exact Option.bind_fun_some _

/-- What comes while the task does not wait for it leaves everything as it is. -/
theorem woken_unawaited (h : Stands p l t s) (depth now : Nat) (jitter : Rat)
    {ws : List Reader.Wake}
    (hws : ∀ w ∈ ws, Reader.step Monitor.behaviour now depth jitter t w p = some p) :
    woken p depth now jitter ws = some p := by
  induction ws with
  | nil => rfl
  | cons w ws ih =>
    rw [woken_cons h.tasks h.awaits.first, hws w List.mem_cons_self]
    exact ih fun w' hw' => hws w' (List.mem_cons_of_mem _ hw')

theorem woken_of_reading (h : Stands p .reading t s) (depth now : Nat) (jitter : Rat)
    (r : Except StreamError Unit) : woken p depth now jitter [.turn, .opened r] = some p :=
  woken_unawaited h depth now jitter (by simp [Reader.step, Reader.resume, h.awaits.reading rfl])

theorem woken_of_down (h : Stands p l t s) (hl : l ≠ .reading) (depth now : Nat) (jitter : Rat)
    {w : Reader.Wake} (hw : w = .ended ∨ ∃ i, w = .item i) :
    woken p depth now jitter [w] = some p := by
  refine woken_unawaited h depth now jitter fun w' hw' => ?_
  obtain rfl := List.mem_singleton.mp hw'
  rcases hw with rfl | ⟨i, rfl⟩ <;> rcases h.awaits.down hl with hp | ⟨since, delay, hp⟩ <;>
    simp [Reader.step, Reader.resume, hp]

theorem woken_turn (h : Stands p l t s) (d : Files.Disk) (hl : l ≠ .reading) (depth now : Nat)
    (jitter : Rat) (ws : List Reader.Wake) :
    ∃ p₁ : Pipeline, woken p depth now jitter (.turn :: ws) = woken p₁ depth now jitter ws ∧
      Reader.Attended (account d s p.own.moment) p₁ { t with phase := .opening } [] := by
  obtain ⟨p₁, h₁, hattended⟩ := (h.attended d).step_turn now depth jitter (h.awaits.down hl)
  refine ⟨p₁, ?_, hattended⟩
  rw [woken_cons h.tasks h.awaits.first, h₁, Option.bind_some]

theorem Stands.refused (h : Stands p l t s) (d : Files.Disk) (depth now : Nat) (jitter : Rat)
    (e : StreamError) :
    ∃ p' t', woken p (depth + 1) now jitter [.turn, .opened (.error e)] = some p' ∧
      Stands p' l t' s := by
  by_cases hl : l = .reading
  · subst hl
    exact ⟨p, t, woken_of_reading h .., h⟩
  · obtain ⟨p₁, h₁, hopening⟩ := woken_turn h d hl (depth + 1) now jitter [.opened (.error e)]
    obtain ⟨p₂, h₂, hretired⟩ :=
      (keepsUp_account d s _).step_refused now depth jitter e hopening rfl
    refine ⟨p₂, _, ?_, stands_of_attended hretired (h.awaits.retired l hl rfl now jitter)⟩
    rw [h₁, woken_one hopening.tasks h.awaits.first, h₂]

theorem Stands.opened (h : Stands p l t s) (d : Files.Disk) (depth now : Nat) (jitter : Rat) :
    ∃ p' t', woken p (depth + 1) now jitter [.turn, .opened (.ok ())] = some p' ∧
      Stands p' .reading t' (s.hear d (if l = .down then [.restart] else [])) := by
  by_cases hl : l = .reading
  · subst hl
    exact ⟨p, t, woken_of_reading h .., h⟩
  · obtain ⟨p₁, h₁, hopening⟩ := woken_turn h d hl (depth + 1) now jitter [.opened (.ok ())]
    obtain ⟨p₂, h₂, hconnected⟩ := (keepsUp_account d s _).step_opened now depth jitter hopening rfl
    have hstands := stands_of_attended hconnected h.awaits.opened
    refine ⟨p₂, t.connected, ?_, ?_⟩
    · rw [h₁, woken_one hopening.tasks h.awaits.first, h₂]
    · rw [h.awaits.connected] at hstands
      cases l with
      | fresh | down => exact hstands
      | reading => exact absurd rfl hl

/-- Of the events that an item is heard as, only a snapshot matters to the store. -/
theorem filterMap_heardItem (m : Moment) (i : Item) :
    (Monitor.behaviour.heardItem i).filterMap (heardOf m) =
      (Link.snapshot? i).toList.map (.snapshot · m.time m.work) := by
  have hheard (text : String) : [Monitor.behaviour.heard text].filterMap (heardOf m) =
      (Monitor.behaviour.decode text).toOption.toList.map (.snapshot · m.time m.work) := by
    unfold Behaviour.heard
    cases Monitor.behaviour.decode text <;> rfl
  match i with
  | .ok (.text content) => exact hheard content
  | .ok (.binary content) =>
    simp only [Behaviour.heardItem, Link.snapshot?]
    cases String.fromUTF8? content with
    | some text => exact hheard text
    | none => rfl
  | .ok .close | .error _ => rfl

theorem Stands.item (h : Stands p .reading t s) (d : Files.Disk) (depth now : Nat) (jitter : Rat)
    (i : Item) :
    ∃ p' t', woken p (depth + 1) now jitter [.item i] = some p' ∧
      Stands p' (if i.closes then .down else .reading) t' (s.hear d
        ((Link.snapshot? i).toList.map (.snapshot · p.own.moment.time p.own.moment.work))) := by
  obtain ⟨p₁, h₁, hread⟩ :=
    (keepsUp_account d s _).step_item now depth jitter i (h.attended d) (h.awaits.reading rfl)
  have hawaits : Awaits (if i.closes then t.retired now jitter else t)
      (if i.closes then .down else .reading) := by
    split
    · exact h.awaits.retired .down (by decide) rfl now jitter
    · exact h.awaits
  have hstands := stands_of_attended hread hawaits
  rw [List.nil_append, filterMap_heardItem] at hstands
  exact ⟨p₁, _, (woken_one h.tasks h.awaits.first _).trans h₁, hstands⟩

theorem Stands.ended (h : Stands p .reading t s) (d : Files.Disk) (depth now : Nat) (jitter : Rat) :
    ∃ p' t', woken p (depth + 1) now jitter [.ended] = some p' ∧ Stands p' .down t' s := by
  obtain ⟨p₁, h₁, hended⟩ :=
    (keepsUp_account d s _).step_ended now depth jitter (h.attended d) (h.awaits.reading rfl)
  have hawaits := h.awaits.retired .down (by decide) rfl now jitter
  exact ⟨p₁, _, (woken_one h.tasks h.awaits.first _).trans h₁, stands_of_attended hended hawaits⟩

/-- Whatever comes of the transport, the store hears what it is to hear. -/
theorem Stands.arrive (h : Stands p l t s) (d : Files.Disk) (depth : Nat) (x : Arrival) :
    ∃ p' t', p.played (depth + 1) [x] = some p' ∧
      Stands p' (l.after x.yield) t' (s.hear d (l.hears x)) := by
  have hplayed : p.played (depth + 1) [x] =
      woken (p.setMoment x.moment) (depth + 1) x.clock x.jitter x.wakes := by
    simp only [played, List.flatMap_cons, List.flatMap_nil, List.append_nil]
    rfl
  rw [hplayed]
  obtain ⟨clock, m, jitter, yield⟩ := x
  have hm := h.setMoment m
  cases yield with
  | refused e =>
    have hl : l.after (.refused e) = l := by cases l <;> rfl
    have hs : l.hears ⟨clock, m, jitter, .refused e⟩ = [] := by cases l <;> rfl
    rw [hl, hs]
    exact hm.refused d depth clock jitter e
  | opened =>
    have hl : l.after .opened = .reading := by cases l <;> rfl
    have hs : l.hears ⟨clock, m, jitter, .opened⟩ = if l = .down then [.restart] else [] := by
      cases l <;> rfl
    rw [hl, hs]
    exact hm.opened d depth clock jitter
  | item i =>
    cases l with
    | reading => exact hm.item d depth clock jitter i
    | fresh | down =>
      exact ⟨_, t, woken_of_down hm (by decide) _ clock jitter (Or.inr ⟨i, rfl⟩), hm⟩
  | ended =>
    cases l with
    | reading => exact hm.ended d depth clock jitter
    | fresh | down => exact ⟨_, t, woken_of_down hm (by decide) _ clock jitter (Or.inl rfl), hm⟩

theorem played_cons (p : Pipeline) (depth : Nat) (x : Arrival) (xs : List Arrival) :
    p.played depth (x :: xs) = (p.played depth [x]).bind fun p' => played p' depth xs := by
  simp only [played, Reader.run, List.flatMap_cons, List.flatMap_nil, List.append_nil,
    List.foldlM_append]
  rfl

theorem Stands.play (h : Stands p l t s) (d : Files.Disk) (depth : Nat) (xs : List Arrival) :
    ∃ p', p.played (depth + 1) xs = some p' ∧ p'.store = s.hear d (l.heard xs) := by
  induction xs generalizing p l t s with
  | nil => exact ⟨p, rfl, h.store⟩
  | cons x xs ih =>
    obtain ⟨p₁, t₁, h₁, hstands⟩ := h.arrive d depth x
    obtain ⟨p₂, h₂, hstore⟩ := ih hstands
    refine ⟨p₂, ?_, ?_⟩
    · rw [played_cons, h₁]
      exact h₂
    · rw [hstore, ← Store.hear_append]
      rfl

theorem stands_started (name : String) (c : Stream.Config) (settings : SettingsStore) (m : Moment)
    (address : String) :
    Stands (started name c settings m address) .fresh ⟨1, address, c.backoff, false, .ready, false⟩
      (.create settings) where
  generation := rfl
  tasks := rfl
  wiring := rfl
  store := rfl
  awaits := ⟨rfl, rfl, Link.noConfusion, fun _ => Or.inl rfl⟩

/-- Reconnects do not show. Two scripts of a transport may spread the same snapshots, read at the
same times, over sessions as they like, with refused opens, errors and malformed frames wherever
they like. After each of the snapshots both stores have heard just the snapshots so far, in order,
have returned the same outcomes and show the same view, but for the restarts and the revision. These
differ by the reconnects that one of the scripts has more. -/
theorem same_but_for_reconnects (d : Files.Disk) (depth : Nat) (name : String) (c : Stream.Config)
    (settings : SettingsStore) (m : Moment) (address : String) {xs ys xs' ys' : List Arrival}
    (hsame : deliveries ys = deliveries xs) (hxs : xs' <+: xs) (hys : ys' <+: ys)
    (hcount : (deliveries ys').length = (deliveries xs').length) :
    ∃ p q, (started name c settings m address).played (depth + 1) xs' = some p ∧
      (started name c settings m address).played (depth + 1) ys' = some q ∧
      p.store = (Store.create settings).hear d (Link.fresh.heard xs') ∧
      q.store = (Store.create settings).hear d (Link.fresh.heard ys') ∧
      Store.outcomes d (.create settings) (Link.fresh.heard ys') =
        Store.outcomes d (.create settings) (Link.fresh.heard xs') ∧
      q.store.view = { p.store.view with
        streamRestarts := q.store.view.streamRestarts
        revision := q.store.view.revision } ∧
      (q.store.view.streamRestarts : Int) - p.store.view.streamRestarts =
        reconnects ys' - reconnects xs' ∧
      (q.store.view.revision : Int) - p.store.view.revision = reconnects ys' - reconnects xs' := by
  have hstart := stands_started name c settings m address
  obtain ⟨p, hp, hpstore⟩ := hstart.play d depth xs'
  obtain ⟨q, hq, hqstore⟩ := hstart.play d depth ys'
  have hfeeds : deliveries ys' = deliveries xs' := by
    have hprefix := deliveries_mono hys
    rw [hsame] at hprefix
    have hle := Nat.le_of_eq hcount
    exact (List.prefix_of_prefix_length_le hprefix (deliveries_mono hxs) hle).eq_of_length hcount
  have hxview := Store.view_hear_create d d settings (Eq.refl (deliveries xs'))
  have hyview := Store.view_hear_create d d settings hfeeds
  have houtcomes := ((Store.Alike.refl (.create settings)).hear d d hfeeds).2
  refine ⟨p, q, hp, hq, hpstore, hqstore, houtcomes, ?_, ?_, ?_⟩
  · rw [hpstore, hqstore, hyview]
  · rw [hpstore, hqstore, hxview, hyview]
    rfl
  · rw [hpstore, hqstore, hxview, hyview]
    have hlength := congrArg List.length hfeeds
    simp only [deliveries] at hlength
    simp only [reconnects]
    omega

def listing (id : String) : String := "\x7b\"Connections\":[\x7b\"ID\":\"" ++ id ++ "\"\x7d]\x7d"

def coming (second : Nat) (y : Yield) : Arrival :=
  ⟨1000 * second, { time := ⟨0, second, 0⟩ }, 0, y⟩

/-! Two snapshots in one session, and in sessions of their own. -/

def together : List Arrival := [
  coming 0 .opened,
  coming 1 (.item (.ok (.text (listing "a")))),
  coming 2 (.item (.ok (.text "?"))),
  coming 4 (.item (.ok (.text (listing "b")))),
  coming 5 .ended]

def apart : List Arrival := [
  coming 0 (.refused (.transport "down")),
  coming 0 .opened,
  coming 1 (.item (.ok (.binary (listing "a").toUTF8))),
  coming 1 (.item (.ok .close)),
  coming 2 .opened,
  coming 2 (.item (.error (.transport "reset"))),
  coming 3 (.refused (.transport "down")),
  coming 3 .opened,
  coming 4 (.item (.ok (.text (listing "b"))))]

def listening : Pipeline := started "proxy" {} (.inMemory {}) { time := ⟨0, 0, 0⟩ } "proxy"

theorem same_together_and_apart :
    ∃ p q, listening.played 1 together = some p ∧ listening.played 1 apart = some q ∧
      p.store.view.rows.map (·.id) = ["a", "b"] ∧ q.store.view.rows = p.store.view.rows ∧
      (q.store.view.streamRestarts : Int) - p.store.view.streamRestarts = 2 := by
  have hsame : deliveries apart = deliveries together := by decide +kernel
  obtain ⟨p, q, hp, hq, hstore, -, -, hview, hrestarts, -⟩ :=
    same_but_for_reconnects .empty 0 "proxy" {} (.inMemory {}) { time := ⟨0, 0, 0⟩ } "proxy" hsame
      (List.prefix_refl together) (List.prefix_refl apart) (congrArg List.length hsame)
  refine ⟨p, q, hp, hq, ?_, congrArg (·.rows) hview, hrestarts.trans (by decide +kernel)⟩
  rw [hstore]
  decide +kernel

end Pipeline

end TrafficWatch
