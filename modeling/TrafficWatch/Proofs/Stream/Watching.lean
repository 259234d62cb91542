import Mathlib.Data.List.Basic
import TrafficWatch.Stream.Reader

/-!
A subscriber that watches a reader: it is registered once for every kind of event and writes each
event down, while whatever else is subscribed leaves it and the session alone. Each dispatch adds
its event to what the watcher has seen, and nothing else does. The steps of a task are followed for
any subscribers of which that can be said.
-/

namespace TrafficWatch.Stream

namespace Reader

variable {M H W : Type}

/-- A call that leaves a handler, its subscriptions and the session alone and sends no frame. -/
def Call.Harmless (handler : H) (ids : List SubscriptionId) : Call H → Prop
  | .subscribe _ h => h ≠ handler
  | .unsubscribe id => id ∉ ids
  | .report => True
  | .connect _ | .destroy | .push _ => False

/-- A program of harmless calls that does not change what is seen. -/
def Quiet (handler : H) (ids : List SubscriptionId) (seen : W → List (Event M)) :
    Program H W → Prop
  | .done => True
  | .look k => ∀ w, Quiet handler ids seen (k w)
  | .note f k => (∀ w, seen (f w) = seen w) ∧ Quiet handler ids seen k
  | .call c k => c.Harmless handler ids ∧ ∀ r, Quiet handler ids seen (k r)

/-- A handler that writes down every event, among others that are quiet. -/
structure Watcher (b : Behaviour M H (Program H W)) where
  handler : H
  ids : List SubscriptionId
  seen : W → List (Event M)
  log : Event M → W → W
  respond : ∀ e, b.respond handler e = .note (log e) .done
  seen_log : ∀ e w, seen (log e w) = seen w ++ [e]
  others : ∀ h e, h ≠ handler → Quiet handler ids seen (b.respond h e)

variable {b : Behaviour M H (Program H W)}

def Watcher.Quiet (w : Watcher b) : Program H W → Prop := Reader.Quiet w.handler w.ids w.seen

/-- The watcher has one subscription to each kind of event. -/
def Watcher.Registered (w : Watcher b) (r : Registry H) : Prop :=
  ∀ kind, ∃ id ∈ w.ids, ∃ before after,
    r.entries.filter (·.1.kind == kind) = before ++ (id, w.handler) :: after ∧
      ∀ x ∈ before ++ after, x.2 ≠ w.handler

theorem Watcher.Registered.subscribe {w : Watcher b} {r : Registry H} (hr : w.Registered r)
    (kind : EventKind) {h : H} (hne : h ≠ w.handler) : w.Registered (r.subscribe kind h).1 := by
  intro other
  obtain ⟨id, hid, before, after, he, hb⟩ := hr other
  refine ⟨id, hid, before, after ++ List.filter (·.1.kind == other) [(⟨kind, r.nextNumber⟩, h)], ?_, ?_⟩
  · simp [Registry.subscribe, he]
  · intro x hx
    rw [← List.append_assoc] at hx
    rcases List.mem_append.mp hx with hx | hx
    · exact hb x hx
    · rw [List.mem_singleton.mp (List.mem_filter.mp hx).1]
      exact hne

theorem Watcher.Registered.unsubscribe {w : Watcher b} {r : Registry H} (hr : w.Registered r)
    {id : SubscriptionId} (hid : id ∉ w.ids) : w.Registered (r.unsubscribe id).1 := by
  intro kind
  obtain ⟨own, hown, before, after, he, hb⟩ := hr kind
  have hne : own ≠ id := fun heq => hid (heq ▸ hown)
  refine ⟨own, hown, before.filter (·.1 != id), after.filter (·.1 != id), ?_, ?_⟩
  · have hf : (r.unsubscribe id).1.entries.filter (·.1.kind == kind) =
        (r.entries.filter (·.1.kind == kind)).filter (·.1 != id) := by
      simp only [Registry.unsubscribe, List.filter_filter, Bool.and_comm]
    rw [hf, he]
    simp [hne]
  · intro x hx
    rw [← List.filter_append] at hx
    exact hb x (List.mem_filter.mp hx).1

/-- A reader with one task, which is current, and what the watcher has seen of it. -/
structure Watched (w : Watcher b) (s : State M H W) (t : Task) (es : List (Event M)) : Prop where
  generation : s.reader.generation = t.generation
  tasks : s.reader.tasks = [t]
  registered : w.Registered s.reader.registry
  seen : w.seen s.own = es

variable {w : Watcher b} {s : State M H W} {t : Task} {es : List (Event M)}

theorem Watched.exec_quiet (now : Nat) (d : Dispatch M H W) {p : Program H W} (hp : w.Quiet p)
    (h : Watched w s t es) : ∃ s', exec b now d p s = some s' ∧ Watched w s' t es := by
  induction p generalizing s with
  | done => exact ⟨s, rfl, h⟩
  | look k ih => exact ih s.own (hp s.own) h
  | note f k ih =>
    have hs : Watched w { s with own := f s.own } t es :=
      ⟨h.generation, h.tasks, h.registered, (hp.1 s.own).trans h.seen⟩
    exact ih hp.2 hs
  | call c k ih =>
    obtain ⟨hc, hk⟩ := hp
    cases c with
    | subscribe kind handler =>
      exact ih _ (hk _) ⟨h.generation, h.tasks, h.registered.subscribe kind hc, h.seen⟩
    | unsubscribe id =>
      exact ih _ (hk _) ⟨h.generation, h.tasks, h.registered.unsubscribe hc, h.seen⟩
    | report => exact ih _ (hk _) h
    | connect address | destroy | push frame => exact hc.elim

theorem Watched.exec_others (now : Nat) (d : Dispatch M H W) (e : Event M) {hs : List H}
    (hne : ∀ h ∈ hs, h ≠ w.handler) (h : Watched w s t es) :
    ∃ s', hs.foldlM (fun s h => exec b now d (b.respond h e) s) s = some s' ∧
      Watched w s' t es := by
  induction hs generalizing s with
  | nil => exact ⟨s, rfl, h⟩
  | cons handler hs ih =>
    obtain ⟨s₁, h₁, hw⟩ := h.exec_quiet now d (w.others handler e (hne handler List.mem_cons_self))
    obtain ⟨s₂, h₂, hw₂⟩ := ih (fun x hx => hne x (List.mem_cons_of_mem _ hx)) hw
    exact ⟨s₂, by rw [List.foldlM_cons, h₁]; exact h₂, hw₂⟩

theorem Watched.exec_watcher (now : Nat) (d : Dispatch M H W) (e : Event M)
    (h : Watched w s t es) :
    ∃ s', exec b now d (b.respond w.handler e) s = some s' ∧ Watched w s' t (es ++ [e]) := by
  rw [w.respond]
  refine ⟨_, rfl, h.generation, h.tasks, h.registered, ?_⟩
  rw [← h.seen]
  exact w.seen_log e s.own

theorem Watched.dispatch (now depth : Nat) (e : Event M) (h : Watched w s t es) :
    ∃ s', dispatch b now (depth + 1) e s = some s' ∧ Watched w s' t (es ++ [e]) := by
  obtain ⟨id, -, before, after, hentries, hne⟩ := h.registered e.kind
  have hh : s.reader.registry.handlers e.kind =
      before.map (·.2) ++ w.handler :: after.map (·.2) := by
    simp [Registry.handlers, hentries]
  have hb : ∀ x ∈ before.map (·.2), x ≠ w.handler := by
    rintro x hx
    obtain ⟨y, hy, rfl⟩ := List.mem_map.mp hx
    exact hne y (List.mem_append_left _ hy)
  have ha : ∀ x ∈ after.map (·.2), x ≠ w.handler := by
    rintro x hx
    obtain ⟨y, hy, rfl⟩ := List.mem_map.mp hx
    exact hne y (List.mem_append_right _ hy)
  let d := Reader.dispatch b now depth
  obtain ⟨s₁, h₁, hw₁⟩ := h.exec_others now d e hb
  obtain ⟨s₂, h₂, hw₂⟩ := hw₁.exec_watcher now d e
  obtain ⟨s₃, h₃, hw₃⟩ := hw₂.exec_others now d e ha
  refine ⟨s₃, ?_, hw₃⟩
  simp only [Reader.dispatch, hh, List.foldlM_append, List.foldlM_cons]
  exact Option.bind_eq_some_iff.mpr ⟨s₁, h₁, Option.bind_eq_some_iff.mpr ⟨s₂, h₂, h₃⟩⟩

/-- A reader with one task, which is current, of whose subscribers `K` holds once they have been
told of some events. -/
structure Attended (K : List (Event M) → Registry H → W → Prop) (s : State M H W) (t : Task)
    (es : List (Event M)) : Prop where
  generation : s.reader.generation = t.generation
  tasks : s.reader.tasks = [t]
  kept : K es s.reader.registry s.own

/-- Each dispatch adds its event to those that `K` holds of. -/
def KeepsUp (b : Behaviour M H (Program H W)) (K : List (Event M) → Registry H → W → Prop) : Prop :=
  ∀ now depth e (s : State M H W) t es, Attended K s t es →
    ∃ s', Reader.dispatch b now (depth + 1) e s = some s' ∧ Attended K s' t (es ++ [e])

/-- What a watcher makes of events. -/
def Watcher.account (w : Watcher b) (es : List (Event M)) (r : Registry H) (own : W) : Prop :=
  w.Registered r ∧ w.seen own = es

theorem watched_iff : Watched w s t es ↔ Attended w.account s t es :=
  ⟨fun h => ⟨h.generation, h.tasks, h.registered, h.seen⟩,
    fun h => ⟨h.generation, h.tasks, h.kept.1, h.kept.2⟩⟩

theorem Watcher.keepsUp (w : Watcher b) : KeepsUp b w.account := fun now depth e _ _ _ h =>
  have ⟨s', hs, hw⟩ := (watched_iff.mpr h).dispatch now depth e
  ⟨s', hs, watched_iff.mp hw⟩

variable {K : List (Event M) → Registry H → W → Prop}

theorem Attended.isCurrent (h : Attended K s t es) : s.reader.isCurrent t.generation = true := by
  rw [Reader.isCurrent, h.generation]
  exact beq_self_eq_true t.generation

theorem Attended.updateTask (h : Attended K s t es) {f : Task → Task}
    (hf : (f t).generation = t.generation) :
    Attended K (s.on (·.updateTask t.generation f)) (f t) es where
  generation := h.generation.trans hf.symm
  tasks := by simp [State.on, Reader.updateTask, h.tasks]
  kept := h.kept

theorem KeepsUp.emit (hK : KeepsUp b K) (now depth : Nat) (e : Event M) (h : Attended K s t es) :
    ∃ s', emit (Reader.dispatch b now (depth + 1)) t.generation e s = some s' ∧
      Attended K s' t (es ++ [e]) := by
  rw [Reader.emit, if_pos h.isCurrent]
  exact hK now depth e s t es h

theorem KeepsUp.reportParseError (hK : KeepsUp b K) (now depth : Nat) (e : Json.DecodeError)
    (h : Attended K s t es) :
    ∃ s', reportParseError (Reader.dispatch b now (depth + 1)) e s = some s' ∧
      Attended K s' t (es ++ [.error (.parse e)]) :=
  hK now depth _ (s.on noteParseError) t es ⟨h.generation, h.tasks, h.kept⟩

theorem KeepsUp.reportTransportError (hK : KeepsUp b K) (now depth : Nat) (e : StreamError)
    (h : Attended K s t es) :
    ∃ s', reportTransportError (Reader.dispatch b now (depth + 1)) t.generation e s = some s' ∧
      Attended K s' t (es ++ [.error e]) := by
  have hs : Attended K (s.on noteTransportError) t es := ⟨h.generation, h.tasks, h.kept⟩
  exact hK.emit now depth _ hs

end Reader

variable {M H P : Type}

/-- What the text of a frame is heard as. -/
def Behaviour.heard (b : Behaviour M H P) (text : String) : Event M :=
  match b.decode text with
  | .ok m => .data m
  | .error e => .error (.parse e)

/-- What an item of a channel is heard as. -/
def Behaviour.heardItem (b : Behaviour M H P) : Item → List (Event M)
  | .ok (.text content) => [b.heard content]
  | .ok (.binary content) =>
    match String.fromUTF8? content with
    | some text => [b.heard text]
    | none => [.error (.parse .encoding)]
  | .ok .close => [.close]
  | .error e => [.error e, .close]

/-- No item of a channel is read after this one. -/
def Item.closes : Item → Bool
  | .ok .close | .error _ => true
  | .ok (.text _) | .ok (.binary _) => false

/-- A task whose transport has gone. -/
def Task.retired (t : Task) (now : Nat) (jitter : Rat) : Task :=
  { t with phase := .waiting now (t.backoff.delay jitter), backoff := t.backoff.advance }

/-- A task whose transport is open. -/
def Task.connected (t : Task) : Task :=
  { t with hasConnected := true, backoff := t.backoff.reset, phase := .reading }

namespace Reader

variable {W : Type} {b : Behaviour M H (Program H W)} {K : List (Event M) → Registry H → W → Prop}
  {s : State M H W} {t : Task} {es : List (Event M)}

theorem KeepsUp.ingest (hK : KeepsUp b K) (now depth : Nat) (text : String)
    (h : Attended K s t es) :
    ∃ s' r, ingest b now (Reader.dispatch b now (depth + 1)) text s = some (s', r) ∧
      Attended K s' t (es ++ [b.heard text]) := by
  have hs : Attended K (s.on (·.countFrame text.utf8ByteSize)) t es :=
    ⟨h.generation, h.tasks, h.kept⟩
  unfold Reader.ingest Behaviour.heard
  cases b.decode text with
  | ok m =>
    have hk : Attended K ((s.on (·.countFrame text.utf8ByteSize)).on (·.keep m)) t es :=
      ⟨h.generation, h.tasks, h.kept⟩
    obtain ⟨s₁, h₁, hw⟩ := hK now depth (.data m) _ t es hk
    refine ⟨s₁.on (noteDelivered now), .ok (), ?_, hw.generation, hw.tasks, hw.kept⟩
    exact Option.bind_eq_some_iff.mpr ⟨s₁, h₁, rfl⟩
  | error e =>
    obtain ⟨s₁, h₁, hw⟩ := hK.reportParseError now depth e hs
    exact ⟨s₁, .error (.parse e), Option.bind_eq_some_iff.mpr ⟨s₁, h₁, rfl⟩, hw⟩

theorem Attended.retire (now : Nat) (jitter : Rat) (h : Attended K s t es) :
    Attended K (retire now jitter t.generation s) (t.retired now jitter) es := by
  rw [Reader.retire, if_pos h.isCurrent]
  exact h.updateTask (f := (·.retired now jitter)) rfl

theorem KeepsUp.closeChannel (hK : KeepsUp b K) (now depth : Nat) (jitter : Rat)
    (h : Attended K s t es) :
    ∃ s', closeChannel now (Reader.dispatch b now (depth + 1)) jitter t.generation s = some s' ∧
      Attended K s' (t.retired now jitter) (es ++ [.close]) := by
  obtain ⟨s₁, h₁, hw⟩ := hK.emit now depth .close h
  exact ⟨_, Option.map_eq_some_iff.mpr ⟨s₁, h₁, rfl⟩, hw.retire now jitter⟩

theorem KeepsUp.receive (hK : KeepsUp b K) (now depth : Nat) (jitter : Rat) (i : Item)
    (h : Attended K s t es) :
    ∃ s', receive b now (Reader.dispatch b now (depth + 1)) jitter t.generation i s = some s' ∧
      Attended K s' (if i.closes then t.retired now jitter else t) (es ++ b.heardItem i) := by
  match i with
  | .ok (.text content) =>
    obtain ⟨s₁, r, h₁, hw⟩ := hK.ingest now depth content h
    exact ⟨s₁, Option.map_eq_some_iff.mpr ⟨(s₁, r), h₁, rfl⟩, hw⟩
  | .ok (.binary content) =>
    simp only [Reader.receive, Behaviour.heardItem]
    cases String.fromUTF8? content with
    | some text =>
      obtain ⟨s₁, r, h₁, hw⟩ := hK.ingest now depth text h
      exact ⟨s₁, Option.map_eq_some_iff.mpr ⟨(s₁, r), h₁, rfl⟩, hw⟩
    | none =>
      have hs : Attended K (s.on (·.countFrame content.size)) t es :=
        ⟨h.generation, h.tasks, h.kept⟩
      exact hK.reportParseError now depth .encoding hs
  | .ok .close => exact hK.closeChannel now depth jitter h
  | .error e =>
    obtain ⟨s₁, h₁, hw₁⟩ := hK.reportTransportError now depth e h
    obtain ⟨s₂, h₂, hw₂⟩ := hK.closeChannel now depth jitter hw₁
    refine ⟨s₂, Option.bind_eq_some_iff.mpr ⟨s₁, h₁, h₂⟩, ?_⟩
    rw [List.append_assoc] at hw₂
    exact hw₂

theorem Attended.step_turn (now depth : Nat) (jitter : Rat) (h : Attended K s t es)
    (ht : t.phase = .ready ∨ ∃ since delay, t.phase = .waiting since delay) :
    ∃ s', step b now depth jitter t .turn s = some s' ∧
      Attended K s' { t with phase := .opening } es := by
  refine ⟨s.on (·.updateTask t.generation ({ · with phase := .opening })), ?_, h.updateTask rfl⟩
  obtain ht | ⟨since, delay, ht⟩ := ht <;> simp only [step, resume, ht, if_pos h.isCurrent]

theorem KeepsUp.step_refused (hK : KeepsUp b K) (now depth : Nat) (jitter : Rat) (e : StreamError)
    (h : Attended K s t es) (ht : t.phase = .opening) :
    ∃ s', step b now (depth + 1) jitter t (.opened (.error e)) s = some s' ∧
      Attended K s' (t.retired now jitter) (es ++ [.error e]) := by
  obtain ⟨s₁, h₁, hw⟩ := hK.reportTransportError now depth e h
  refine ⟨_, ?_, hw.retire now jitter⟩
  simp only [step, resume, ht]
  exact Option.map_eq_some_iff.mpr ⟨s₁, h₁, rfl⟩

theorem KeepsUp.step_opened (hK : KeepsUp b K) (now depth : Nat) (jitter : Rat)
    (h : Attended K s t es) (ht : t.phase = .opening) :
    ∃ s', step b now (depth + 1) jitter t (.opened (.ok ())) s = some s' ∧
      Attended K s' t.connected (es ++ if t.hasConnected then [.reconnect] else []) := by
  have hu : Attended K (s.on (·.updateTask t.generation Task.connected)) t.connected es :=
    h.updateTask rfl
  have hs : Attended K (s.on fun r => (r.updateTask t.generation Task.connected).noteConnected
      t.hasConnected) t.connected es :=
    ⟨hu.generation, hu.tasks, hu.kept⟩
  simp only [step, resume, ht, if_pos h.isCurrent, beginSession]
  by_cases hc : t.hasConnected = true
  · rw [if_pos hc, if_pos hc]
    exact hK.emit now depth .reconnect hs
  · rw [if_neg hc, if_neg hc, List.append_nil]
    exact ⟨_, rfl, hs⟩

theorem KeepsUp.step_item (hK : KeepsUp b K) (now depth : Nat) (jitter : Rat) (i : Item)
    (h : Attended K s t es) (ht : t.phase = .reading) :
    ∃ s', step b now (depth + 1) jitter t (.item i) s = some s' ∧
      Attended K s' (if i.closes then t.retired now jitter else t) (es ++ b.heardItem i) := by
  simp only [step, resume, ht, if_pos h.isCurrent]
  exact hK.receive now depth jitter i h

theorem KeepsUp.step_ended (hK : KeepsUp b K) (now depth : Nat) (jitter : Rat)
    (h : Attended K s t es) (ht : t.phase = .reading) :
    ∃ s', step b now (depth + 1) jitter t .ended s = some s' ∧
      Attended K s' (t.retired now jitter) (es ++ [.close]) := by
  simp only [step, resume, ht]
  exact hK.closeChannel now depth jitter h

variable {w : Watcher b}

theorem Watched.step_turn (now depth : Nat) (jitter : Rat) (h : Watched w s t es)
    (ht : t.phase = .ready ∨ ∃ since delay, t.phase = .waiting since delay) :
    ∃ s', step b now depth jitter t .turn s = some s' ∧
      Watched w s' { t with phase := .opening } es := by
  simpa only [watched_iff] using (watched_iff.mp h).step_turn now depth jitter ht

theorem Watched.step_refused (now depth : Nat) (jitter : Rat) (e : StreamError)
    (h : Watched w s t es) (ht : t.phase = .opening) :
    ∃ s', step b now (depth + 1) jitter t (.opened (.error e)) s = some s' ∧
      Watched w s' (t.retired now jitter) (es ++ [.error e]) := by
  simpa only [watched_iff] using w.keepsUp.step_refused now depth jitter e (watched_iff.mp h) ht

theorem Watched.step_opened (now depth : Nat) (jitter : Rat) (h : Watched w s t es)
    (ht : t.phase = .opening) :
    ∃ s', step b now (depth + 1) jitter t (.opened (.ok ())) s = some s' ∧
      Watched w s' t.connected (es ++ if t.hasConnected then [.reconnect] else []) := by
  simpa only [watched_iff] using w.keepsUp.step_opened now depth jitter (watched_iff.mp h) ht

theorem Watched.step_item (now depth : Nat) (jitter : Rat) (i : Item) (h : Watched w s t es)
    (ht : t.phase = .reading) :
    ∃ s', step b now (depth + 1) jitter t (.item i) s = some s' ∧
      Watched w s' (if i.closes then t.retired now jitter else t) (es ++ b.heardItem i) := by
  simpa only [watched_iff] using w.keepsUp.step_item now depth jitter i (watched_iff.mp h) ht

theorem Watched.step_ended (now depth : Nat) (jitter : Rat) (h : Watched w s t es)
    (ht : t.phase = .reading) :
    ∃ s', step b now (depth + 1) jitter t .ended s = some s' ∧
      Watched w s' (t.retired now jitter) (es ++ [.close]) := by
  simpa only [watched_iff] using w.keepsUp.step_ended now depth jitter (watched_iff.mp h) ht

end Reader

end TrafficWatch.Stream
