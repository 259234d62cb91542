import TrafficWatch.Stream.Reader

/-!
Properties of a reader that outlast the steps of its tasks. It takes three things: that they do not
depend on the buffer and the counters, that a task may go on under them and end once it is behind,
and that dispatches keep them.
-/

namespace TrafficWatch.Stream.Reader

variable {M H W : Type}

/-- What each of a list of steps keeps, all of them keep. -/
theorem foldlM_keeps {S A : Type} {f : S → A → Option S} {P : S → Prop} {as : List A}
    (step : ∀ a ∈ as, ∀ s s', P s → f s a = some s' → P s') {s s' : S} (h : P s)
    (hs : as.foldlM f s = some s') : P s' := by
  induction as generalizing s with
  | nil =>
    obtain rfl := Option.some.inj hs
    exact h
  | cons a as ih =>
    rw [List.foldlM_cons] at hs
    obtain ⟨s₁, h₁, h₂⟩ := Option.bind_eq_some_iff.mp hs
    exact ih (fun a ha => step a (List.mem_cons_of_mem _ ha)) (step a List.mem_cons_self s s₁ h h₁) h₂

/-- A change to how far a task is. -/
structure Advances (f : Task → Task) : Prop where
  generation : ∀ t, (f t).generation = t.generation
  address : ∀ t, (f t).address = t.address
  aborted : ∀ t, (f t).aborted = t.aborted

/-- A property that neither the buffer and the counters have a part in, nor how far tasks are, as
long as they come to phases that `q` holds of. Only a task that is not current ends. -/
structure Lasting (q : Phase → Prop) (I : State M H W → Prop) : Prop where
  aside : ∀ {s} buffer stats, I s → I (s.on ({ · with buffer, stats }))
  task : ∀ {s} g {f}, Advances f → (∀ t, q (f t).phase) →
    (s.reader.isCurrent g = true → ∀ t, (f t).phase ≠ .finished) → I s → I (s.on (·.updateTask g f))

/-- A dispatch that begins under a generation of some kind keeps a property. -/
def Keeps (I : State M H W → Prop) (p : Nat → Prop) (d : Dispatch M H W) : Prop :=
  ∀ e (s s' : State M H W), I s → p s.reader.generation → d e s = some s' → I s'

variable {q : Phase → Prop} {I : State M H W → Prop} {p : Nat → Prop} {b : Behaviour M H (Program H W)} {now : Nat}
variable {d : Dispatch M H W} {s s' : State M H W} {g : Nat} {jitter : Rat}

theorem Keeps.weaken (hd : Keeps I (fun _ => True) d) (p : Nat → Prop) : Keeps I p d :=
  fun e s s' h _ => hd e s s' h trivial

theorem Keeps.parseError (hI : Lasting q I) (hd : Keeps I p d) (h : I s) (hp : p s.reader.generation)
    {e : Json.DecodeError} (he : reportParseError d e s = some s') : I s' := by
  have ho : I (s.on noteParseError) := hI.aside _ _ h
  exact hd _ _ _ ho hp he

theorem Keeps.ingest (hI : Lasting q I) (hd : Keeps I p d) (h : I s) (hp : p s.reader.generation)
    {text : String} {r : Except StreamError Unit} (hi : ingest b now d text s = some (s', r)) :
    I s' := by
  have hc : I (s.on (·.countFrame text.utf8ByteSize)) := hI.aside _ _ h
  unfold Reader.ingest at hi
  cases hm : b.decode text with
  | ok m =>
    simp only [hm] at hi
    obtain ⟨s₁, h₁, heq⟩ := Option.bind_eq_some_iff.mp hi
    cases heq
    have hk : I ((s.on (·.countFrame text.utf8ByteSize)).on (·.keep m)) := hI.aside _ _ hc
    exact hI.aside _ _ (hd _ _ _ hk hp h₁)
  | error e =>
    simp only [hm] at hi
    obtain ⟨s₁, h₁, heq⟩ := Option.bind_eq_some_iff.mp hi
    cases heq
    exact hd.parseError hI hc hp h₁

/-- Dispatches to any depth keep what each handler keeps, however it is run. -/
theorem keeps_rounds {dispatch : Nat → Dispatch M H W}
    (handle : Dispatch M H W → H → Event M → State M H W → Option (State M H W))
    (zero : ∀ e s, dispatch 0 e s = none)
    (succ : ∀ depth e s, dispatch (depth + 1) e s =
      (s.reader.registry.handlers e.kind).foldlM (fun s h => handle (dispatch depth) h e s) s)
    (keeps : ∀ d, Keeps I (fun _ => True) d → ∀ h e (s s' : State M H W), I s →
      handle d h e s = some s' → I s') (depth : Nat) : Keeps I (fun _ => True) (dispatch depth) := by
  induction depth with
  | zero =>
    intro e s s' _ _ hs
    rw [zero] at hs
    cases hs
  | succ depth ih =>
    intro e s s' h _ hs
    rw [succ] at hs
    exact foldlM_keeps (fun handler _ s s' h hs => keeps _ ih handler e s s' h hs) h hs

/-- What the handlers of a registry keep, dispatches keep to whatever depth. -/
theorem keeps_dispatch {depth : Nat}
    (exec : ∀ d, Keeps I (fun _ => True) d → ∀ h e (s s' : State M H W), I s →
      exec b now d (b.respond h e) s = some s' → I s') :
    Keeps I (fun _ => True) (dispatch b now depth) :=
  keeps_rounds (fun d h e => Reader.exec b now d (b.respond h e)) (fun _ _ => rfl)
    (fun _ _ _ => rfl) exec depth

/-- The check is made when the dispatch begins, so it sees what handlers did before. -/
theorem Keeps.emit (hd : Keeps I (· = g) d) (h : I s) {e : Event M} (he : emit d g e s = some s') :
    I s' := by
  unfold Reader.emit at he
  split at he
  · next hc => exact hd e s s' h (by simpa [isCurrent] using hc) he
  · obtain rfl := Option.some.inj he
    exact h

theorem Lasting.finish (hI : Lasting q I) (hq : q .finished) (h : I s)
    (hc : ¬ s.reader.isCurrent g = true) : I (finish g s) :=
  hI.task g ⟨fun _ => rfl, fun _ => rfl, fun _ => rfl⟩ (fun _ => hq) (fun h => absurd h hc) h

theorem Lasting.retire (hI : Lasting q I) (hq : ∀ phase, phase ≠ .opening → q phase) (h : I s)
    (now : Nat) (jitter : Rat) (g : Nat) : I (retire now jitter g s) := by
  unfold Reader.retire
  split
  · exact hI.task g ⟨fun _ => rfl, fun _ => rfl, fun _ => rfl⟩ (fun _ => hq _ nofun)
      (fun _ _ => nofun) h
  · next hc => exact hI.finish (hq _ nofun) h hc

theorem Keeps.closeChannel (hI : Lasting q I) (hq : ∀ phase, phase ≠ .opening → q phase)
    (hd : Keeps I (· = g) d) (h : I s) (hs : closeChannel now d jitter g s = some s') : I s' := by
  obtain ⟨s₁, h₁, rfl⟩ := Option.map_eq_some_iff.mp hs
  exact hI.retire hq (hd.emit h h₁) now jitter g

theorem Keeps.transportError (hI : Lasting q I) (hd : Keeps I (· = g) d) (h : I s) {e : StreamError}
    (he : reportTransportError d g e s = some s') : I s' := by
  have ho : I (s.on noteTransportError) := hI.aside _ _ h
  exact hd.emit ho he

theorem Keeps.receive (hI : Lasting q I) (hq : ∀ phase, phase ≠ .opening → q phase)
    (hd : Keeps I (· = g) d) (h : I s) (hc : s.reader.generation = g) {i : Item}
    (hs : receive b now d jitter g i s = some s') : I s' := by
  have hingest {text : String} (ht : (Reader.ingest b now d text s).map (·.1) = some s') : I s' := by
    obtain ⟨⟨s₁, r⟩, h₁, rfl⟩ := Option.map_eq_some_iff.mp ht
    exact hd.ingest hI h hc h₁
  cases i with
  | error e =>
    obtain ⟨s₁, h₁, h₂⟩ := Option.bind_eq_some_iff.mp hs
    exact hd.closeChannel hI hq (hd.transportError hI h h₁) h₂
  | ok frame =>
    cases frame with
    | text content => exact hingest hs
    | close => exact hd.closeChannel hI hq h hs
    | binary content =>
      unfold Reader.receive at hs
      cases hu : String.fromUTF8? content with
      | some text => exact hingest (by simpa only [hu] using hs)
      | none =>
        have hf : I (s.on (·.countFrame content.size)) := hI.aside _ _ h
        exact hd.parseError hI hf hc (by simpa only [hu] using hs)

theorem Keeps.beginSession (hI : Lasting q I) (hq : ∀ phase, phase ≠ .opening → q phase) {t : Task}
    (hd : Keeps I (· = t.generation) d) (h : I s) (hs : beginSession d t s = some s') : I s' := by
  let f (t : Task) : Task :=
    { t with hasConnected := true, backoff := t.backoff.reset, phase := .reading }
  have hf : Advances f := ⟨fun _ => rfl, fun _ => rfl, fun _ => rfl⟩
  have hb : I (s.on fun r => (r.updateTask t.generation f).noteConnected t.hasConnected) :=
    hI.aside _ _ (hI.task t.generation hf (fun _ => hq _ nofun) (fun _ _ => nofun) h)
  unfold Reader.beginSession at hs
  dsimp only at hs
  split at hs
  · exact hd.emit hb hs
  · obtain rfl := Option.some.inj hs
    exact hb

/-- A task comes to open its transport on its turn only. -/
theorem Keeps.resume (hI : Lasting q I) (hq : ∀ phase, phase ≠ .opening → q phase) {t : Task}
    {w : Wake} (hopening : w = .turn → q .opening) (hd : Keeps I (· = t.generation) d) (h : I s)
    (hs : resume b now d jitter t w s = some s') : I s' := by
  have hfinish (hc : ¬ s.reader.isCurrent t.generation = true)
      (h₁ : some (finish t.generation s) = some s') : I s' := by
    obtain rfl := Option.some.inj h₁
    exact hI.finish (hq _ nofun) h hc
  have hturn (hw : w = .turn)
      (h₁ : some (s.on (·.updateTask t.generation ({ · with phase := .opening }))) = some s') :
      I s' := by
    obtain rfl := Option.some.inj h₁
    exact hI.task _ ⟨fun _ => rfl, fun _ => rfl, fun _ => rfl⟩ (fun _ => hopening hw)
      (fun _ _ => nofun) h
  unfold Reader.resume at hs
  dsimp only at hs
  split at hs
  · split at hs
    · exact hturn rfl hs
    · next hc => exact hfinish hc hs
  · split at hs
    · exact hturn rfl hs
    · next hc => exact hfinish hc hs
  · obtain ⟨s₁, h₁, rfl⟩ := Option.map_eq_some_iff.mp hs
    exact hI.retire hq (hd.transportError hI h h₁) now jitter t.generation
  · split at hs
    · exact hd.beginSession hI hq h hs
    · next hc => exact hfinish hc hs
  · split at hs
    · next hc => exact hd.receive hI hq h (by simpa [isCurrent] using hc) hs
    · next hc => exact hfinish hc hs
  · exact hd.closeChannel hI hq h hs
  · obtain rfl := Option.some.inj hs
    exact h

end TrafficWatch.Stream.Reader
