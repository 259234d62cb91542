import TrafficWatch.Stream.Reader

/-!
Readers whose programs have something more beside them than others, and do the same. What a reader
does is the same with it and without it.
-/

namespace TrafficWatch.Stream.Reader

variable {M H W T : Type}

/-- Leaves out what there is more. -/
def State.plain (s : State M H (W × T)) : State M H W := ⟨s.reader, s.own.1⟩

/-- A dispatch, and the one that it is without what there is more. -/
def Projects (d' : Dispatch M H (W × T)) (d : Dispatch M H W) : Prop :=
  ∀ e (s : State M H (W × T)), (d' e s).map State.plain = d e s.plain

variable {b' : Behaviour M H (Program H (W × T))} {b : Behaviour M H (Program H W)}
variable {d' : Dispatch M H (W × T)} {d : Dispatch M H W}
variable (now : Nat) (jitter : Rat) (s : State M H (W × T))

theorem Projects.ingest (h : Projects d' d) (hb : b'.decode = b.decode) (text : String) :
    (ingest b' now d' text s).map (fun r => (r.1.plain, r.2)) = ingest b now d text s.plain := by
  unfold Reader.ingest
  rw [hb]
  cases b.decode text with
  | ok m =>
    have hs : (d' (.data m) ((s.on (·.countFrame text.utf8ByteSize)).on (·.keep m))).map State.plain =
        d (.data m) ((s.plain.on (·.countFrame text.utf8ByteSize)).on (·.keep m)) := h _ _
    simp only
    rw [← hs]
    cases d' _ _ <;> rfl
  | error e =>
    have hs : (reportParseError d' e (s.on (·.countFrame text.utf8ByteSize))).map State.plain =
        reportParseError d e (s.plain.on (·.countFrame text.utf8ByteSize)) := h _ _
    simp only
    rw [← hs]
    cases reportParseError d' _ _ <;> rfl

theorem Projects.perform (h : Projects d' d) (hb : b'.decode = b.decode) (c : Call H) :
    (perform b' now d' c s).map (fun r => (r.1.plain, r.2)) = perform b now d c s.plain := by
  cases c with
  | push frame =>
    have hi := h.ingest now s hb frame
    simp only [Reader.perform]
    rw [← hi]
    cases Reader.ingest b' now d' frame s <;> rfl
  | subscribe kind handler | unsubscribe id | connect address | destroy | report => rfl

theorem map_plain_bind {x : Option (State M H (W × T))}
    {f : State M H (W × T) → Option (State M H (W × T))} {g : State M H W → Option (State M H W)}
    (h : ∀ s, (f s).map State.plain = g s.plain) :
    (x.bind f).map State.plain = (x.map State.plain).bind g := by
  cases x with
  | none => rfl
  | some s => exact h s

theorem foldlM_map_plain {A : Type} {f : State M H (W × T) → A → Option (State M H (W × T))}
    {g : State M H W → A → Option (State M H W)}
    (h : ∀ a s, (f s a).map State.plain = g s.plain a) (as : List A) :
    (as.foldlM f s).map State.plain = as.foldlM g s.plain := by
  induction as generalizing s with
  | nil => rfl
  | cons a as ih =>
    rw [List.foldlM_cons, List.foldlM_cons, ← h a s]
    exact map_plain_bind ih

/-- Dispatches to any depth do the same if each handler does. -/
theorem projects_rounds {dispatch' : Nat → Dispatch M H (W × T)}
    (handle : Dispatch M H (W × T) → H → Event M → State M H (W × T) → Option (State M H (W × T)))
    (zero : ∀ e s, dispatch' 0 e s = none)
    (succ : ∀ depth e s, dispatch' (depth + 1) e s =
      (s.reader.registry.handlers e.kind).foldlM (fun s h => handle (dispatch' depth) h e s) s)
    (projects : ∀ d' d, Projects d' d → ∀ h e s,
      (handle d' h e s).map State.plain = exec b now d (b.respond h e) s.plain) (depth : Nat) :
    Projects (dispatch' depth) (dispatch b now depth) := by
  induction depth with
  | zero => exact fun e s => congrArg (Option.map State.plain) (zero e s)
  | succ depth ih =>
    intro e s
    rw [succ]
    exact foldlM_map_plain s (fun h s => projects _ _ ih h e s) _

theorem Projects.emit (h : Projects d' d) (g : Nat) (e : Event M) :
    (emit d' g e s).map State.plain = emit d g e s.plain := by
  unfold Reader.emit
  by_cases hc : s.reader.isCurrent g
  · simpa [hc, State.plain] using h e s
  · simp [hc, State.plain]

theorem Projects.transportError (h : Projects d' d) (g : Nat) (e : StreamError) :
    (reportTransportError d' g e s).map State.plain = reportTransportError d g e s.plain :=
  h.emit _ g _

theorem plain_retire (g : Nat) : (retire now jitter g s).plain = retire now jitter g s.plain := by
  unfold Reader.retire
  rw [apply_ite State.plain]
  rfl

theorem Projects.closeChannel (h : Projects d' d) (g : Nat) :
    (closeChannel now d' jitter g s).map State.plain = closeChannel now d jitter g s.plain := by
  unfold Reader.closeChannel
  rw [← h.emit s g .close]
  cases Reader.emit d' g .close s with
  | none => rfl
  | some s => exact congrArg some (plain_retire now jitter s g)

theorem Projects.receive (h : Projects d' d) (hb : b'.decode = b.decode) (g : Nat) (i : Item) :
    (receive b' now d' jitter g i s).map State.plain = receive b now d jitter g i s.plain := by
  have hingest (text : String) : ((Reader.ingest b' now d' text s).map (·.1)).map State.plain =
      (Reader.ingest b now d text s.plain).map (·.1) := by
    rw [← h.ingest now s hb text]
    cases Reader.ingest b' now d' text s <;> rfl
  cases i with
  | error e =>
    have ht := h.transportError s g e
    simp only [Reader.receive]
    rw [← ht]
    exact map_plain_bind fun s => h.closeChannel now jitter s g
  | ok frame =>
    cases frame with
    | text content => exact hingest content
    | close => exact h.closeChannel now jitter s g
    | binary content =>
      unfold Reader.receive
      cases hu : String.fromUTF8? content with
      | none => simp only [hu]; exact h _ _
      | some text => simp only [hu]; exact hingest text

theorem Projects.resume (h : Projects d' d) (hb : b'.decode = b.decode) (t : Task) (w : Wake) :
    (resume b' now d' jitter t w s).map State.plain = resume b now d jitter t w s.plain := by
  unfold Reader.resume
  split
  · by_cases hc : s.reader.isCurrent t.generation <;> simp [hc, State.plain, State.on, finish]
  · by_cases hc : s.reader.isCurrent t.generation <;> simp [hc, State.plain, State.on, finish]
  · next e _ =>
    dsimp only
    rw [← h.transportError s t.generation e]
    cases reportTransportError d' t.generation e s with
    | none => rfl
    | some s => exact congrArg some (plain_retire now jitter s t.generation)
  · by_cases hc : s.reader.isCurrent t.generation
    · simp only [State.plain, hc, ↓reduceIte, beginSession]
      split
      · exact h.emit _ _ _
      · rfl
    · simp [hc, State.plain, State.on, finish]
  · by_cases hc : s.reader.isCurrent t.generation
    · simp only [State.plain, hc, ↓reduceIte]
      exact h.receive now jitter s hb t.generation _
    · simp [hc, State.plain, State.on, finish]
  · exact h.closeChannel now jitter s t.generation
  · rfl

end TrafficWatch.Stream.Reader
