import Mathlib.Data.Finset.Card
import Mathlib.Data.Finset.Dedup
import TrafficWatch.Proofs.Reconnects
import TrafficWatch.Proofs.Ring
import TrafficWatch.Proofs.Stream.SessionCalls
import TrafficWatch.Proofs.Web.Effects

/-!
The counters of a pipeline add up. They are moved in different places: for a frame when it comes,
for a message once it has been delivered, for a failure where it is noticed, and by the store on its
own. Here they are held against what has come of the transports and what the store has been fed.
-/

open TrafficWatch.Stream TrafficWatch.Tracking

namespace TrafficWatch

namespace Tracking.Store

def Op.feeds : Op → Bool
  | .feed _ _ _ => true
  | .toggle | .setRetention _ | .clearClosed | .restart => false

/-- A store that so many snapshots have been fed to. -/
structure Fed (s : Store) (n : Nat) : Prop extends Tidy s where
  applied : s.applyTimes.count = n
  cycles : s.table.cycles = n
  updated : s.updatedAt.isSome = true ↔ 0 < n

variable {s : Store} {n : Nat}

theorem fed_create (settings : SettingsStore) : (create settings).Fed 0 where
  toTidy := tidy_create settings
  applied := rfl
  cycles := rfl
  updated := by simp [create]

theorem Fed.feed (h : s.Fed n) (snapshot : Wire.Snapshot) (now : Time.Instant) (ms : Float) :
    (s.feed snapshot now ms).1.Fed (n + 1) where
  toTidy := h.toTidy.feed snapshot now ms
  applied := by
    have hcount : (s.feed snapshot now ms).1.applyTimes = s.applyTimes.add ms := rfl
    rw [hcount, RunningStat.add_count, h.applied]
  cycles := by
    have hcycles := (Table.totals_apply s.table snapshot now).2
    rw [h.cycles] at hcycles
    cases hk : s.keepClosed with
    | true => rwa [feed_table_of_keep hk]
    | false =>
      rw [h.toTidy.feed_table hk]
      exact hcycles
  updated := iff_of_true rfl (Nat.succ_pos n)

theorem Fed.setRetention (h : s.Fed n) (d : Files.Disk) (keep : Bool) :
    (setRetention d s keep).2.Fed n where
  toTidy := h.toTidy.setRetention d keep
  applied := h.applied
  cycles := by
    cases keep with
    | true => exact h.cycles
    | false => exact h.cycles
  updated := h.updated

theorem Fed.clearClosed (h : s.Fed n) : s.clearClosed.1.Fed n where
  toTidy := h.toTidy.clearClosed
  applied := by
    unfold Store.clearClosed
    split
    split
    · exact h.applied
    · exact h.applied
  cycles := by
    rw [clearClosed_table h.sound]
    exact h.cycles
  updated := by
    unfold Store.clearClosed
    split
    split
    · exact h.updated
    · exact h.updated

theorem Fed.noteRestart (h : s.Fed n) : s.noteRestart.Fed n where
  toTidy := h.toTidy.step .empty .restart
  applied := h.applied
  cycles := h.cycles
  updated := h.updated

theorem Fed.step (h : s.Fed n) (d : Files.Disk) {op : Op} (hop : op.feeds = false) :
    (step d s op).1.2.Fed n := by
  cases op with
  | feed snapshot now ms => cases hop
  | toggle => exact h.setRetention d _
  | setRetention keep => exact h.setRetention d keep
  | clearClosed => exact h.clearClosed
  | restart => exact h.noteRestart

theorem Fed.view_updatedAt (h : s.Fed n) : s.view.updatedAt.isSome = true ↔ 0 < n := by
  rw [h.shown]
  exact h.updated

end Tracking.Store

namespace Stream

/-- What came of the transport of a task. -/
inductive Incident where
  | refused (generation : Nat)
  | opened (generation : Nat)
  | broke (generation : Nat)
deriving DecidableEq, Repr

namespace Incident

def isRefused : Incident → Bool
  | .refused _ => true
  | .opened _ | .broke _ => false

def isBroke : Incident → Bool
  | .broke _ => true
  | .opened _ | .refused _ => false

def opener? : Incident → Option Nat
  | .opened g => some g
  | .refused _ | .broke _ => none

end Incident

/-- The tasks that have opened their transport at least once. -/
def openers (is : List Incident) : Finset Nat := (is.filterMap Incident.opener?).toFinset

/-- A transport that opens for a task that is not current is not used. -/
def Task.incident? (t : Task) (current : Bool) (w : Reader.Wake) : Option Incident :=
  match t.phase, w with
  | .opening, .opened (.error _) => some (.refused t.generation)
  | .opening, .opened (.ok ()) => if current then some (.opened t.generation) else none
  | .reading, .item (.error _) => if current then some (.broke t.generation) else none
  | _, _ => none

theorem openers_opened (is : List Incident) (g : Nat) :
    openers (is ++ [.opened g]) = insert g (openers is) := by
  unfold openers
  rw [List.filterMap_append, List.toFinset_append, Finset.insert_eq, Finset.union_comm]
  rfl

theorem openers_other (is : List Incident) {i : Incident} (hi : i.opener? = none) :
    openers (is ++ [i]) = openers is := by
  simp [openers, hi]

/-- A task counts once, however often it opens its transport. -/
theorem card_openers_opened (is : List Incident) (g : Nat) :
    (openers (is ++ [.opened g])).card = (openers is).card + if g ∈ openers is then 0 else 1 := by
  rw [openers_opened]
  split
  · next hg => rw [Finset.insert_eq_self.mpr hg, Nat.add_zero]
  · next hg => exact Finset.card_insert_of_notMem hg

namespace Reader

variable {M H : Type}

/-- A reader whose counters of the transport tell what came of it. -/
structure Sessions (r : Reader M H) (is : List Incident) : Prop where
  asked : ∃ calls, r.Consistent calls
  failures : r.stats.transportErrors = is.countP (·.isRefused) + is.countP (·.isBroke)
  reconnects : r.stats.connects = r.stats.reconnects + (openers is).card
  opened : ∀ t ∈ r.tasks, t.hasConnected = true ↔ t.generation ∈ openers is
  bounded : ∀ g ∈ openers is, g ≤ r.generation

variable {r : Reader M H} {is : List Incident}

namespace Sessions

theorem aside (h : r.Sessions is) (buffer : Ring M) {stats : StreamStats}
    (herrors : stats.transportErrors = r.stats.transportErrors)
    (hconnects : stats.connects = r.stats.connects)
    (hreconnects : stats.reconnects = r.stats.reconnects) :
    Sessions { r with buffer, stats } is where
  asked := by
    obtain ⟨calls, hcalls⟩ := h.asked
    exact ⟨calls, hcalls.frame rfl hcalls.left buffer stats⟩
  failures := herrors.trans h.failures
  reconnects := by
    rw [hconnects, hreconnects]
    exact h.reconnects
  opened := h.opened
  bounded := h.bounded

/-- Tasks that have been open at some time stay so. -/
theorem opened_map (h : r.Sessions is) {f : Task → Task}
    (hgeneration : ∀ t, (f t).generation = t.generation)
    (hconnected : ∀ t, (f t).hasConnected = t.hasConnected) :
    ∀ t ∈ r.tasks.map f, t.hasConnected = true ↔ t.generation ∈ openers is := by
  intro t ht
  obtain ⟨t₀, ht₀, rfl⟩ := List.mem_map.mp ht
  rw [hgeneration, hconnected]
  exact h.opened t₀ ht₀

theorem updateTask (h : r.Sessions is) (g : Nat) {f : Task → Task} (hf : Advances f)
    (hfinished : r.isCurrent g = true → ∀ t, (f t).phase ≠ .finished)
    (hconnected : ∀ t, (f t).hasConnected = t.hasConnected) : (r.updateTask g f).Sessions is where
  asked := by
    obtain ⟨calls, hcalls⟩ := h.asked
    exact ⟨calls, hcalls.updateTask g hf hfinished⟩
  failures := h.failures
  reconnects := h.reconnects
  opened := by
    refine h.opened_map (fun t => ?_) (fun t => ?_)
    · split
      · exact hf.generation t
      · rfl
    · split
      · exact hconnected t
      · rfl
  bounded := h.bounded

theorem failed (h : r.Sessions is) {i : Incident} (hi : i.isRefused = true ∨ i.isBroke = true) :
    (noteTransportError r).Sessions (is ++ [i]) := by
  have hother : i.opener? = none ∧
      ([i].countP (·.isRefused) + [i].countP (·.isBroke) = 1) := by
    cases i with
    | opened g => simp [Incident.isRefused, Incident.isBroke] at hi
    | refused g | broke g => exact ⟨rfl, rfl⟩
  have hopeners := openers_other is hother.1
  obtain ⟨calls, hcalls⟩ := h.asked
  exact
    { asked := ⟨calls, hcalls.frame rfl hcalls.left r.buffer _⟩
      failures := by
        have herrors : (noteTransportError r).stats.transportErrors = r.stats.transportErrors + 1 :=
          rfl
        rw [herrors, h.failures, List.countP_append, List.countP_append]
        omega
      reconnects := hopeners ▸ h.reconnects
      opened := hopeners ▸ h.opened
      bounded := hopeners ▸ h.bounded }

/-- Only the first time that a task opens its transport is no reconnect. -/
theorem begin (h : r.Sessions is) {t : Task} (ht : t ∈ r.tasks) {f : Task → Task} (hf : Advances f)
    (hphase : ∀ t, (f t).phase ≠ .finished) (hconnected : ∀ t, (f t).hasConnected = true) :
    ((r.updateTask t.generation f).noteConnected t.hasConnected).Sessions
      (is ++ [.opened t.generation]) := by
  obtain ⟨calls, hcalls⟩ := h.asked
  have hopeners := openers_opened is t.generation
  exact
    { asked := ⟨calls, (hcalls.updateTask t.generation hf fun _ => hphase).frame rfl hcalls.left _ _⟩
      failures := by
        simp only [List.countP_append, List.countP_singleton, Incident.isRefused, Incident.isBroke]
        exact h.failures
      reconnects := by
        have hcounted : r.stats.connects + 1 =
            (if t.hasConnected then r.stats.reconnects + 1 else r.stats.reconnects) +
              ((openers is).card + if t.generation ∈ openers is then 0 else 1) := by
          simp only [← h.opened t ht, h.reconnects]
          split <;> omega
        rw [card_openers_opened]
        exact hcounted
      opened := by
        intro t' ht'
        obtain ⟨t₀, ht₀, rfl⟩ := List.mem_map.mp ht'
        rw [hopeners, Finset.mem_insert]
        split
        · next hg => exact iff_of_true (hconnected t₀) (Or.inl ((hf.generation t₀).trans hg))
        · next hg =>
          rw [h.opened t₀ ht₀, or_iff_right hg]
      bounded := by
        intro g hg
        rw [hopeners] at hg
        rcases Finset.mem_insert.mp hg with rfl | hg
        · exact hcalls.bounded t ht
        · exact h.bounded g hg }

theorem connect (h : r.Sessions is) (address : String) : (r.connect address).Sessions is := by
  obtain ⟨calls, hcalls⟩ := h.asked
  have hconsistent := hcalls.connect address
  rcases connect_eq r address with heq | heq
  · rwa [heq]
  · rw [heq] at hconsistent ⊢
    have hg := start_generation r r.session.task address
    have hstats : ((r.abort r.session.task).start address).stats = r.stats := by
      cases r.session.task <;> rfl
    have hold : ∀ t ∈ (r.abort r.session.task).tasks,
        t.hasConnected = true ↔ t.generation ∈ openers is := by
      cases r.session.task with
      | none => exact h.opened
      | some g =>
        refine h.opened_map (fun t => ?_) (fun t => ?_)
        · split <;> rfl
        · split <;> rfl
    have hnew : r.generation + 1 ∉ openers is := fun hm => Nat.not_succ_le_self _ (h.bounded _ hm)
    exact
      { asked := ⟨_, hconsistent⟩
        failures := hstats ▸ h.failures
        reconnects := hstats ▸ h.reconnects
        opened := by
          intro t ht
          rcases List.mem_append.mp ht with ht | ht
          · exact hold t ht
          · obtain rfl := List.mem_singleton.mp ht
            refine iff_of_false Bool.false_ne_true ?_
            rwa [show (r.abort r.session.task).generation + 1 = r.generation + 1 from hg]
        bounded := fun g hm => hg ▸ Nat.le_succ_of_le (h.bounded g hm) }

/-- A task that is not current has been aborted. -/
theorem current_of_kept (h : r.Sessions is) {t : Task} (ht : t ∈ r.tasks)
    (hkept : t.aborted = false) : r.isCurrent t.generation = true := by
  obtain ⟨calls, hcalls⟩ := h.asked
  by_contra hcurrent
  have hsession : r.session.task ≠ some t.generation := fun hs => hcurrent (hcalls.task hs).1
  exact Bool.false_ne_true (hkept.symm.trans (hcalls.others t ht hsession))

end Sessions

end Reader

end Stream

namespace Pipeline

/-- A pipeline whose counters of frames agree with its buffer and its store. -/
structure Traffic (capacity : Nat) (p : Pipeline) : Prop where
  frames : p.reader.stats.framesReceived =
    p.reader.stats.messagesDelivered + p.reader.stats.parseErrors
  fed : p.own.store.Fed p.reader.stats.messagesDelivered
  buffered : ∃ ms, Ring.Holds capacity p.reader.buffer ms ∧
    ms.length = p.reader.stats.messagesDelivered

structure Balanced (capacity : Nat) (is : List Incident) (p : Pipeline) : Prop where
  wired : p.reader.registry = wiring
  traffic : p.Traffic capacity
  sessions : p.reader.Sessions is

variable {capacity now depth g : Nat} {jitter : Rat} {is : List Incident} {p : Pipeline}

theorem balanced_create (name : String) (c : Stream.Config) (settings : SettingsStore) (m : Moment) :
    (create name c (.create settings) m).Balanced c.bufferLength.toNat [] where
  wired := rfl
  traffic := ⟨rfl, Store.fed_create settings, [], Ring.holds_empty _, rfl⟩
  sessions :=
    { asked := ⟨[], (Reader.consistent_create name c).frame rfl nofun _ _⟩
      failures := rfl
      reconnects := rfl
      opened := nofun
      bounded := nofun }

namespace Balanced

theorem updateTask (h : p.Balanced capacity is) (g : Nat) {f : Task → Task} (hf : Reader.Advances f)
    (hfinished : p.reader.isCurrent g = true → ∀ t, (f t).phase ≠ .finished)
    (hconnected : ∀ t, (f t).hasConnected = t.hasConnected) :
    Balanced capacity is (p.on (·.updateTask g f)) where
  wired := h.wired
  traffic := ⟨h.traffic.frames, h.traffic.fed, h.traffic.buffered⟩
  sessions := h.sessions.updateTask g hf hfinished hconnected

theorem finish (h : p.Balanced capacity is) (hc : ¬ p.reader.isCurrent g = true) :
    Balanced capacity is (Reader.finish g p) :=
  h.updateTask g ⟨fun _ => rfl, fun _ => rfl, fun _ => rfl⟩ (fun hcurrent => absurd hcurrent hc)
    fun _ => rfl

theorem retire (h : p.Balanced capacity is) (now : Nat) (jitter : Rat) (g : Nat) :
    Balanced capacity is (Reader.retire now jitter g p) := by
  unfold Reader.retire
  split
  · exact h.updateTask g ⟨fun _ => rfl, fun _ => rfl, fun _ => rfl⟩ (fun _ _ => nofun) fun _ => rfl
  · next hc => exact h.finish hc

/-- The store takes in the data, and no other event. -/
theorem exists_dispatch {n : Nat} (hwired : p.reader.registry = wiring) (hfed : p.own.store.Fed n)
    (now depth : Nat) (e : Event Wire.Snapshot) :
    ∃ own : Monitor, Reader.dispatch Monitor.behaviour now (depth + 1) e p = some { p with own } ∧
      own.store.Fed (n + if e.kind = .data then 1 else 0) := by
  obtain ⟨own, hown, -, hheard⟩ := dispatch_wiring (d := .empty) now depth e hwired
  refine ⟨own, hown, ?_⟩
  rw [hheard]
  cases e with
  | data snapshot => exact hfed.feed snapshot _ _
  | reconnect => exact hfed.noteRestart
  | error _ | close => exact hfed

theorem emit (h : p.Balanced capacity is) (now depth g : Nat) {e : Event Wire.Snapshot}
    (he : e.kind ≠ .data) :
    ∃ p' : Pipeline, Reader.emit (Reader.dispatch Monitor.behaviour now (depth + 1)) g e p = some p' ∧
      p'.Balanced capacity is := by
  obtain ⟨own, hown, hfed⟩ := exists_dispatch h.wired h.traffic.fed now depth e
  rw [if_neg he, Nat.add_zero] at hfed
  unfold Reader.emit
  split
  · exact ⟨_, hown, h.wired, ⟨h.traffic.frames, hfed, h.traffic.buffered⟩, h.sessions⟩
  · exact ⟨p, rfl, h⟩

theorem parseError (h : p.Balanced capacity is) (now depth size : Nat) (e : Json.DecodeError) :
    ∃ p' : Pipeline, Reader.reportParseError (Reader.dispatch Monitor.behaviour now (depth + 1)) e
        (p.on (·.countFrame size)) = some p' ∧ p'.Balanced capacity is := by
  let p₁ : Pipeline := (p.on (·.countFrame size)).on Reader.noteParseError
  obtain ⟨own, hown, hfed⟩ :=
    exists_dispatch (p := p₁) h.wired h.traffic.fed now depth (.error (.parse e))
  refine ⟨_, hown, h.wired, ⟨?_, hfed, h.traffic.buffered⟩, ?_⟩
  · exact congrArg (· + 1) h.traffic.frames
  · exact h.sessions.aside p.reader.buffer rfl rfl rfl

theorem ingest (h : p.Balanced capacity is) (now depth : Nat) (text : String) :
    ∃ (p' : Pipeline) (r : Except StreamError Unit), Reader.ingest Monitor.behaviour now
        (Reader.dispatch Monitor.behaviour now (depth + 1)) text p = some (p', r) ∧
      p'.Balanced capacity is := by
  unfold Reader.ingest
  cases Monitor.behaviour.decode text with
  | error e =>
    obtain ⟨p', hp', hbalanced⟩ := h.parseError now depth text.utf8ByteSize e
    refine ⟨p', .error (.parse e), ?_, hbalanced⟩
    dsimp only
    rw [hp']
    rfl
  | ok m =>
    let p₁ : Pipeline := (p.on (·.countFrame text.utf8ByteSize)).on (·.keep m)
    obtain ⟨own, hown, hfed⟩ := exists_dispatch (p := p₁) h.wired h.traffic.fed now depth (.data m)
    obtain ⟨ms, hholds, hlength⟩ := h.traffic.buffered
    let p₂ : Pipeline := Reader.State.on { p₁ with own } (Reader.noteDelivered now)
    refine ⟨p₂, .ok (), ?_, h.wired, ⟨?_, hfed, ms ++ [m], hholds.push m, ?_⟩, ?_⟩
    · dsimp only
      rw [hown]
      rfl
    · have hframes : p.reader.stats.framesReceived + 1 =
          p.reader.stats.messagesDelivered + 1 + p.reader.stats.parseErrors := by
        rw [h.traffic.frames]
        omega
      exact hframes
    · rw [List.length_append, hlength]
      rfl
    · exact h.sessions.aside (p.reader.buffer.push m) rfl rfl rfl

theorem closeChannel (h : p.Balanced capacity is) (now depth : Nat) (jitter : Rat) (g : Nat) :
    ∃ p' : Pipeline, Reader.closeChannel now (Reader.dispatch Monitor.behaviour now (depth + 1)) jitter g p =
        some p' ∧ p'.Balanced capacity is := by
  obtain ⟨p₁, h₁, hbalanced⟩ := h.emit now depth g (e := .close) nofun
  refine ⟨_, ?_, hbalanced.retire now jitter g⟩
  rw [Reader.closeChannel, h₁]
  rfl

theorem transportError (h : p.Balanced capacity is) (now depth g : Nat) (e : StreamError)
    {i : Incident} (hi : i.isRefused = true ∨ i.isBroke = true) :
    ∃ p' : Pipeline, Reader.reportTransportError (Reader.dispatch Monitor.behaviour now (depth + 1)) g e p =
        some p' ∧ p'.Balanced capacity (is ++ [i]) := by
  have hfailed : Balanced capacity (is ++ [i]) (p.on Reader.noteTransportError) :=
    ⟨h.wired, ⟨h.traffic.frames, h.traffic.fed, h.traffic.buffered⟩, h.sessions.failed hi⟩
  exact hfailed.emit now depth g (e := .error e) nofun

/-- A frame is taken in, or dropped as malformed, or ends the session. -/
theorem receive (h : p.Balanced capacity is) (now depth : Nat) (jitter : Rat) (g : Nat)
    (frame : Frame) :
    ∃ p' : Pipeline, Reader.receive Monitor.behaviour now
        (Reader.dispatch Monitor.behaviour now (depth + 1)) jitter g (.ok frame) p = some p' ∧
      p'.Balanced capacity is := by
  have hingest (text : String) : ∃ p' : Pipeline, (Reader.ingest Monitor.behaviour now
        (Reader.dispatch Monitor.behaviour now (depth + 1)) text p).map (·.1) = some p' ∧
      p'.Balanced capacity is := by
    obtain ⟨p', r, hp', hbalanced⟩ := h.ingest now depth text
    exact ⟨p', by rw [hp']; rfl, hbalanced⟩
  cases frame with
  | text content => exact hingest content
  | binary content =>
    unfold Reader.receive
    dsimp only
    cases String.fromUTF8? content with
    | some text => exact hingest text
    | none => exact h.parseError now depth content.size .encoding
  | close => exact h.closeChannel now depth jitter g

theorem receive_error (h : p.Balanced capacity is) (now depth : Nat) (jitter : Rat) (g : Nat)
    (e : StreamError) :
    ∃ p' : Pipeline, Reader.receive Monitor.behaviour now
        (Reader.dispatch Monitor.behaviour now (depth + 1)) jitter g (.error e) p = some p' ∧
      p'.Balanced capacity (is ++ [.broke g]) := by
  obtain ⟨p₁, h₁, hfailed⟩ := h.transportError now depth g e (i := .broke g) (Or.inr rfl)
  obtain ⟨p₂, h₂, hclosed⟩ := hfailed.closeChannel now depth jitter g
  refine ⟨p₂, ?_, hclosed⟩
  rw [Reader.receive, h₁]
  exact h₂

theorem beginSession (h : p.Balanced capacity is) (now depth : Nat) {t : Task}
    (ht : t ∈ p.reader.tasks) :
    ∃ p' : Pipeline, Reader.beginSession (Reader.dispatch Monitor.behaviour now (depth + 1)) t p =
        some p' ∧ p'.Balanced capacity (is ++ [.opened t.generation]) := by
  have hbegun := h.sessions.begin ht (f := Task.connected) ⟨fun _ => rfl, fun _ => rfl, fun _ => rfl⟩
    (fun _ => nofun) fun _ => rfl
  have hbalanced : Balanced capacity (is ++ [.opened t.generation]) (p.on fun r =>
      (r.updateTask t.generation Task.connected).noteConnected t.hasConnected) :=
    ⟨h.wired, ⟨h.traffic.frames, h.traffic.fed, h.traffic.buffered⟩, hbegun⟩
  unfold Reader.beginSession
  dsimp only
  split
  · exact hbalanced.emit now depth t.generation (e := .reconnect) nofun
  · exact ⟨_, rfl, hbalanced⟩

/-- Whatever a task is woken by, the counters go along with what comes of its transport. -/
theorem resume (h : p.Balanced capacity is) (now depth : Nat) (jitter : Rat) {t : Task}
    (ht : t ∈ p.reader.tasks) (w : Reader.Wake) :
    ∃ p' : Pipeline, Reader.resume Monitor.behaviour now
        (Reader.dispatch Monitor.behaviour now (depth + 1)) jitter t w p = some p' ∧
      p'.Balanced capacity
        (is ++ (t.incident? (p.reader.isCurrent t.generation) w).toList) := by
  have hsame : p.Balanced capacity (is ++ []) := by rwa [List.append_nil]
  have hturn : ∃ p' : Pipeline, (if p.reader.isCurrent t.generation then
        some (p.on (·.updateTask t.generation ({ · with phase := .opening })))
      else some (Reader.finish t.generation p)) = some p' ∧ p'.Balanced capacity (is ++ []) := by
    split
    · exact ⟨_, rfl, hsame.updateTask _ ⟨fun _ => rfl, fun _ => rfl, fun _ => rfl⟩
        (fun _ _ => nofun) fun _ => rfl⟩
    · next hc => exact ⟨_, rfl, hsame.finish hc⟩
  unfold Reader.resume Task.incident?
  cases hphase : t.phase with
  | ready | waiting since delay =>
    cases w with
    | turn => exact hturn
    | opened result | item i | ended => exact ⟨p, rfl, hsame⟩
  | opening =>
    cases w with
    | opened result =>
      cases result with
      | error e =>
        obtain ⟨p', hp', hfailed⟩ :=
          h.transportError now depth t.generation e (i := .refused t.generation) (Or.inl rfl)
        refine ⟨_, ?_, hfailed.retire now jitter t.generation⟩
        dsimp only
        rw [hp']
        rfl
      | ok =>
        dsimp only
        split
        · exact h.beginSession now depth ht
        · next hc => exact ⟨_, rfl, hsame.finish hc⟩
    | turn | item i | ended => exact ⟨p, rfl, hsame⟩
  | reading =>
    cases w with
    | item i =>
      dsimp only
      split
      · cases i with
        | ok frame => exact hsame.receive now depth jitter t.generation frame
        | error e => exact h.receive_error now depth jitter t.generation e
      · next hc =>
        have hnone : Balanced capacity (is ++ []) (Reader.finish t.generation p) := hsame.finish hc
        cases i <;> exact ⟨_, rfl, hnone⟩
    | ended => exact hsame.closeChannel now depth jitter t.generation
    | turn | opened result => exact ⟨p, rfl, hsame⟩
  | finished => cases w <;> exact ⟨p, rfl, hsame⟩

theorem connect (h : p.Balanced capacity is) (address : String) :
    Balanced capacity is (p.on (·.connect address)) := by
  have hreader : (p.reader.connect address).registry = p.reader.registry ∧
      (p.reader.connect address).stats = p.reader.stats ∧
      (p.reader.connect address).buffer = p.reader.buffer := by
    rcases Reader.connect_eq p.reader address with heq | heq
    · rw [heq]
      exact ⟨rfl, rfl, rfl⟩
    · rw [heq]
      cases p.reader.session.task <;> exact ⟨rfl, rfl, rfl⟩
  obtain ⟨hregistry, hstats, hbuffer⟩ := hreader
  exact
    { wired := hregistry.trans h.wired
      traffic :=
        { frames := by
            simp only [Reader.State.on, hstats]
            exact h.traffic.frames
          fed := by
            simp only [Reader.State.on, hstats]
            exact h.traffic.fed
          buffered := by
            simp only [Reader.State.on, hstats, hbuffer]
            exact h.traffic.buffered }
      sessions := h.sessions.connect address }

theorem setOwn (h : p.Balanced capacity is) {own : Monitor}
    (hfed : own.store.Fed p.reader.stats.messagesDelivered) :
    Balanced capacity is { p with own } :=
  ⟨h.wired, ⟨h.traffic.frames, hfed, h.traffic.buffered⟩, h.sessions⟩

/-- A request operates on the store, if it does anything to it, and feeds it nothing. -/
theorem answer (h : p.Balanced capacity is) (c : Config) (now : Nat) (d : Files.Disk)
    (r : Web.Request) : Balanced capacity is (Web.answer c now d p r).1.2 := by
  have heffect := Web.effect_answer c now d p r
  have hfed : (Web.answer c now d p r).1.2.store.Fed p.reader.stats.messagesDelivered := by
    cases hop : r.operation? with
    | none =>
      rw [(heffect.looks hop).2]
      exact h.traffic.fed
    | some op =>
      have hfeeds : op.feeds = false := by
        rcases Web.Request.operation?_eq_some hop with ⟨rfl, -⟩ | ⟨rfl, -⟩ <;> rfl
      obtain ⟨hstep, -⟩ := heffect.operates op hop
      have hstore : (Web.answer c now d p r).1.2.store = (Store.step d p.store op).1.2 :=
        congrArg Prod.snd hstep
      rw [hstore]
      exact h.traffic.fed.step d hfeeds
  have hreader : (Web.answer c now d p r).1.2 = { p with own := (Web.answer c now d p r).1.2.own } :=
    congrArg (Reader.State.mk · _) heffect.reader
  rw [hreader]
  exact h.setOwn hfed

end Balanced

/-- What may be done to a pipeline. Its store is fed by its reader alone, and nobody destroys that. -/
inductive Step where
  | push (frame : String)
  | connect (address : String)
  /-- A task may be woken even if it has been aborted, which only adds to the runs. -/
  | wake (generation : Nat) (jitter : Rat) (w : Reader.Wake)
  | operate (op : Store.Op) (aside : op.feeds = false)
  | request (r : Web.Request)
  | moment (m : Moment)
  | files (d : Files.Disk)

/-- A pipeline with the files around it, and what has come of its transports. -/
structure Ledger where
  disk : Files.Disk
  pipeline : Pipeline
  incidents : List Incident

namespace Ledger

def start (d : Files.Disk) (name : String) (c : Stream.Config) (settings : SettingsStore)
    (m : Moment) : Ledger :=
  ⟨d, create name c (.create settings) m, []⟩

def incident? (r : Stream.Reader Wire.Snapshot Reaction) : Reader.Move Reaction Monitor → Option Incident
  | .program _ => none
  | .step g _ w => (r.task? g).bind fun t => t.incident? (r.isCurrent t.generation) w

def move (depth now : Nat) (m : Reader.Move Reaction Monitor) (l : Ledger) : Option Ledger :=
  (Reader.move Monitor.behaviour depth now m l.pipeline).map fun pipeline =>
    { l with pipeline, incidents := l.incidents ++ (incident? l.pipeline.reader m).toList }

def act (c : Config) (depth now : Nat) (l : Ledger) : Step → Option Ledger
  | .push frame => l.move depth now (.program (.just (.push frame)))
  | .connect address => l.move depth now (.program (.just (.connect address)))
  | .wake g jitter w => l.move depth now (.step g jitter w)
  | .operate op _ =>
    let (disk, s) := (Store.step l.disk l.pipeline.store op).1
    some { l with disk, pipeline := l.pipeline.setStore s }
  | .request r =>
    let (disk, pipeline) := (Web.answer c now l.disk l.pipeline r).1
    some { l with disk, pipeline }
  | .moment m => some { l with pipeline := l.pipeline.setMoment m }
  | .files disk => some { l with disk }

/-- Steps one after the other, each at its time. -/
def run (c : Config) (depth : Nat) (l : Ledger) (steps : List (Nat × Step)) : Option Ledger :=
  steps.foldlM (fun l s => l.act c depth s.1 s.2) l

def Balanced (capacity : Nat) (l : Ledger) : Prop := l.pipeline.Balanced capacity l.incidents

variable {l : Ledger}

theorem Balanced.act (h : l.Balanced capacity) (c : Config) (depth now : Nat) (step : Step) :
    ∃ l', l.act c (depth + 1) now step = some l' ∧ l'.Balanced capacity := by
  have hsame : l.pipeline.Balanced capacity (l.incidents ++ []) := by rwa [List.append_nil]
  cases step with
  | push frame =>
    obtain ⟨p', r, hp', hbalanced⟩ := hsame.ingest now depth frame
    refine ⟨⟨l.disk, p', l.incidents ++ []⟩, ?_, hbalanced⟩
    simp only [Ledger.act, Ledger.move, Reader.move, Reader.exec, Script.just, Script.exec,
      Reader.perform, hp']
    rfl
  | connect address => exact ⟨_, rfl, hsame.connect address⟩
  | wake g jitter w =>
    simp only [Ledger.act, Ledger.move, Reader.move, incident?]
    cases ht : l.pipeline.reader.task? g with
    | none => exact ⟨_, rfl, hsame⟩
    | some t =>
      obtain ⟨p', hp', hbalanced⟩ :=
        Pipeline.Balanced.resume h now depth jitter (List.mem_of_find?_eq_some ht) w
      let i := t.incident? (l.pipeline.reader.isCurrent t.generation) w
      refine ⟨⟨l.disk, p', l.incidents ++ i.toList⟩, ?_, hbalanced⟩
      simp only [Reader.step, hp']
      rfl
  | operate op haside =>
    exact ⟨_, rfl, Pipeline.Balanced.setOwn h (h.traffic.fed.step l.disk haside)⟩
  | request r => exact ⟨_, rfl, Pipeline.Balanced.answer h c now l.disk r⟩
  | moment m => exact ⟨_, rfl, Pipeline.Balanced.setOwn h h.traffic.fed⟩
  | files d => exact ⟨_, rfl, h⟩

theorem Balanced.run (h : l.Balanced capacity) (c : Config) (depth : Nat) (steps : List (Nat × Step)) :
    ∃ l', l.run c (depth + 1) steps = some l' ∧ l'.Balanced capacity := by
  induction steps generalizing l with
  | nil => exact ⟨l, rfl, h⟩
  | cons s steps ih =>
    obtain ⟨l₁, h₁, hbalanced⟩ := h.act c depth s.1 s.2
    obtain ⟨l₂, h₂, hlast⟩ := ih hbalanced
    refine ⟨l₂, ?_, hlast⟩
    rw [Ledger.run, List.foldlM_cons, h₁]
    exact h₂

theorem Balanced.health (h : l.Balanced capacity) (c : Config) (now : Nat) (query : String) :
    (Web.answer c now l.disk l.pipeline { method := "GET", path := "/health", query }).2.status = 200 ↔
      0 < l.pipeline.reader.stats.messagesDelivered := by
  have haction : Web.Request.action { method := "GET", path := "/health", query } = .ok .health :=
    Web.Request.asks_iff.mp (.health ⟨Or.inl rfl, rfl⟩)
  have hstatus : (Web.answer c now l.disk l.pipeline
        { method := "GET", path := "/health", query }).2.status =
      (Web.Health.ofPipeline l.pipeline).status := by
    rw [Web.answer, haction]
    rfl
  have hseen : l.pipeline.hasSnapshot = true ↔ 0 < l.pipeline.reader.stats.messagesDelivered :=
    h.traffic.fed.view_updatedAt
  rw [hstatus, ← hseen, Web.Health.ofPipeline]
  cases l.pipeline.hasSnapshot with
  | true => simp [Web.Health.status]
  | false => cases l.pipeline.reader.isActive <;> simp [Web.Health.status]

/-- Nothing gets lost between the counters. Whatever is pushed, connected, opened, received, asked
for and done to the store, and in whatever order: each frame has been delivered or was malformed,
the store has taken in and the buffer has kept what has been delivered, the errors are the refused
and broken transports, and there are as many connects that are no reconnects as tasks, told apart by
their generations, that have opened their transport. A task that has not been aborted is current, so
it uses what it opens. -/
theorem run_balance (c : Config) (depth : Nat) (d : Files.Disk) (name : String)
    (stream : Stream.Config) (settings : SettingsStore) (m : Moment) (steps : List (Nat × Step)) :
    ∃ l, (start d name stream settings m).run c (depth + 1) steps = some l ∧ ∀ now,
      let r := l.pipeline.reader.report now
      r.framesReceived = r.messagesDelivered + r.parseErrors ∧
      l.pipeline.store.applyTimes.count = r.messagesDelivered ∧
      l.pipeline.store.table.cycles = r.messagesDelivered ∧
      r.bufferLength = min stream.bufferLength.toNat r.messagesDelivered ∧
      r.transportErrors =
        l.incidents.countP (·.isRefused) + l.incidents.countP (·.isBroke) ∧
      r.connects = r.reconnects + (openers l.incidents).card ∧
      (l.pipeline.reader.tasks.map (·.generation)).Nodup ∧
      (∀ query, (Web.answer c now l.disk l.pipeline
          { method := "GET", path := "/health", query }).2.status = 200 ↔ 0 < r.messagesDelivered) ∧
      ∀ t ∈ l.pipeline.reader.tasks, t.aborted = false →
        l.pipeline.reader.isCurrent t.generation = true := by
  have hstart : (start d name stream settings m).Balanced stream.bufferLength.toNat :=
    balanced_create name stream settings m
  obtain ⟨l, hl, hbalanced⟩ := hstart.run c depth steps
  obtain ⟨ms, hholds, hlength⟩ := hbalanced.traffic.buffered
  obtain ⟨calls, hcalls⟩ := hbalanced.sessions.asked
  refine ⟨l, hl, fun now => ⟨hbalanced.traffic.frames, hbalanced.traffic.fed.applied,
    hbalanced.traffic.fed.cycles, hholds.length.trans (congrArg _ hlength), hbalanced.sessions.failures,
    hbalanced.sessions.reconnects, hcalls.distinct, hbalanced.health c now, fun t ht hkept => ?_⟩⟩
  exact hbalanced.sessions.current_of_kept ht hkept

/-- Frames good and bad, pushed and received, over transports that fail in every way. -/
def troubled : List (Nat × Step) :=
  [.push "?", .connect "proxy", .wake 1 0 .turn, .wake 1 0 (.opened (.error (.transport "down"))),
    .wake 1 0 .turn, .wake 1 0 (.opened (.ok ())), .wake 1 0 (.item (.ok (.text (listing "a")))),
    .wake 1 0 (.item (.ok (.binary ⟨#[0xFF]⟩))), .wake 1 0 (.item (.error (.transport "reset"))),
    .wake 1 0 .turn, .wake 1 0 (.opened (.ok ())), .connect "other", .wake 2 0 .turn,
    .wake 2 0 (.opened (.ok ())), .request { method := "DELETE", path := "/connections/closed" },
    .operate .toggle rfl, .push (listing "b")].zipIdx.map fun x => (x.2, x.1)

theorem troubled_balance :
    ∃ l, (start .empty "connections" { bufferLength := 1 } (.inMemory {}) { time := ⟨0, 0, 0⟩ }).run
        {} 1 troubled = some l ∧
      l.incidents = [.refused 1, .opened 1, .broke 1, .opened 1, .opened 2] ∧
      let r := l.pipeline.reader.report 0
      r.messagesDelivered = 2 ∧ r.parseErrors = 2 ∧ r.framesReceived = 4 ∧
      l.pipeline.store.applyTimes.count = 2 ∧ r.bufferLength = 1 ∧ r.transportErrors = 2 ∧
      r.connects = r.reconnects + 2 := by
  obtain ⟨l, hl, hbalance⟩ := run_balance {} 0 .empty "connections" { bufferLength := 1 }
    (.inMemory {}) { time := ⟨0, 0, 0⟩ } troubled
  have hcame : ((start .empty "connections" { bufferLength := 1 } (.inMemory {})
        { time := ⟨0, 0, 0⟩ }).run {} 1 troubled).map (fun l => (l.incidents,
          l.pipeline.reader.stats.messagesDelivered, l.pipeline.reader.stats.parseErrors)) =
      some ([.refused 1, .opened 1, .broke 1, .opened 1, .opened 2], 2, 2) := by decide +kernel
  rw [hl] at hcame
  obtain ⟨hincidents, hcounts⟩ := Prod.mk.inj (Option.some.inj hcame)
  obtain ⟨hdelivered, hmalformed⟩ := Prod.mk.inj hcounts
  obtain ⟨hframes, happlied, -, hlength, herrors, hconnects, -⟩ := hbalance 0
  have hopeners : (openers l.incidents).card = 2 := by
    rw [hincidents]
    rfl
  rw [hopeners] at hconnects
  rw [hincidents] at herrors
  refine ⟨l, hl, hincidents, hdelivered, hmalformed, ?_, happlied.trans hdelivered, ?_, herrors,
    hconnects⟩
  · exact hframes.trans (congrArg₂ (· + ·) hdelivered hmalformed)
  · exact hlength.trans (congrArg (min 1) hdelivered)

end Ledger

end Pipeline

end TrafficWatch
