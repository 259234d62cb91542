import TrafficWatch.Commands.Watch
import TrafficWatch.Proofs.Stream.OwnState
import TrafficWatch.Proofs.Tracking.Retention

/-!
The live view with its HTTP server, from its start on: the stream goes on, requests come, and the
user toggles, in any order. All the while the store is as it is between two of its operations.
-/

namespace TrafficWatch

open Tracking

variable {I : Store → Prop}

theorem Monitor.preserves (hI : ∀ s d op, I s → I (Store.step d s op).1.2) (h : Reaction)
    (e : Stream.Event Wire.Snapshot) : (Monitor.react h e).Preserves fun m => I m.store := by
  unfold Monitor.react
  split
  · next s => exact ⟨fun m => hI m.store .empty (.feed s m.moment.time m.moment.work), trivial⟩
  · exact ⟨fun m => hI m.store .empty .restart, trivial⟩
  · exact trivial

theorem Web.Action.keeps_perform (hI : ∀ s d op, I s → I (Store.step d s op).1.2) {p : Pipeline}
    (h : I p.store) (c : Config) (now : Nat) (d : Files.Disk) (a : Web.Action) :
    I (a.perform c now d p).1.2.store := by
  cases a with
  | table f | connections f | connection id | health | metrics => exact h
  | clearClosed => exact hI p.store d .clearClosed h
  | toggleKeepClosed => exact hI p.store d .toggle h

theorem Web.keeps_answer (hI : ∀ s d op, I s → I (Store.step d s op).1.2) {p : Pipeline}
    (h : I p.store) (c : Config) (now : Nat) (d : Files.Disk) (r : Web.Request) :
    I (Web.answer c now d p r).1.2.store := by
  have hcount : I (Web.count p).store := h
  unfold Web.answer
  cases r.action with
  | error e => exact h
  | ok a => exact a.keeps_perform hI hcount c now d

namespace LiveView

/-- What a live view can come to be. The time goes on, and files may change under it. -/
inductive Reachable : LiveView → Prop where
  | start {c : Config} {o : WatchOptions} {d : Files.Disk} {home : Option String} {m : Moment}
      {jitter : Nat → Rat} {v : LiveView} (h : LiveView.start c o d home m jitter = .ok v) :
      Reachable v
  | stream {bound : Nat} {m : Moment} {op : Stream.Play.Op Reaction} {v v' : LiveView}
      (hv : Reachable v) (h : v.stream bound m op = some v') : Reachable v'
  | answer {v : LiveView} (hv : Reachable v) (r : Web.Request) : Reachable (v.answer r).1
  | toggle {v : LiveView} (hv : Reachable v) : Reachable v.toggle
  | tick {v : LiveView} (hv : Reachable v) (process : String) : Reachable (v.tick process).1
  | moment {v : LiveView} (hv : Reachable v) (m : Moment) :
      Reachable (v.setPipeline (v.pipeline.setMoment m))
  | files {v : LiveView} (hv : Reachable v) (d : Files.Disk) : Reachable { v with disk := d }

theorem start_fresh {c : Config} {o : WatchOptions} {d : Files.Disk} {home : Option String}
    {m : Moment} {jitter : Nat → Rat} {v : LiveView}
    (h : LiveView.start c o d home m jitter = .ok v) :
    v.pipeline.store = .create (SettingsStore.loadOrDefault d (c.settingsPath home)) ∧
      v.printed = none := by
  unfold LiveView.start at h
  cases haddress : c.endpoint.connections c.snapshotIntervalMs with
  | error e =>
    rw [haddress] at h
    cases h
  | ok address =>
    rw [haddress] at h
    cases hbind : c.servesHttp && c.listenAddress.isNone with
    | true =>
      simp only [hbind] at h
      cases h
    | false =>
      simp only [hbind] at h
      obtain rfl := Except.ok.inj h
      exact ⟨rfl, rfl⟩

theorem keeps_stream (hI : ∀ s d op, I s → I (Store.step d s op).1.2) {bound : Nat} {m : Moment}
    {op : Stream.Play.Op Reaction} {v v' : LiveView} (hv : I v.pipeline.store)
    (h : v.stream bound m op = some v') : I v'.pipeline.store := by
  obtain ⟨⟨play, r⟩, hstep, heq⟩ := Option.bind_eq_some_iff.mp h
  cases heq
  exact Stream.Play.keepsOwn_step (I := fun m => I m.store) (Monitor.preserves hI) hstep hv

theorem store_tick (v : LiveView) (process : String) :
    (v.tick process).1.pipeline.store = v.pipeline.store := by
  unfold tick
  split
  · rfl
  · split
    · split <;> rfl
    · rfl

theorem Reachable.tidy {v : LiveView} (hv : Reachable v) : v.pipeline.store.Tidy := by
  have hI (s : Store) (d : Files.Disk) (op : Store.Op) (h : s.Tidy) := h.step d op
  induction hv with
  | start h =>
    rw [(start_fresh h).1]
    exact Store.tidy_create _
  | stream hv h ih => exact keeps_stream hI ih h
  | answer hv r ih => exact Web.keeps_answer hI ih _ _ _ r
  | @toggle v hv ih => exact ih.setRetention v.disk _
  | tick hv process ih =>
    rw [store_tick]
    exact ih
  | moment hv m ih => exact ih
  | files hv d ih => exact ih

end LiveView

end TrafficWatch
