import TrafficWatch.Proofs.Stream.Preservation
import TrafficWatch.Stream.Play

/-!
What is kept beside a reader changes by the notes of its handlers alone. A property that every note
keeps holds after every call and every step of a task, and so at the end of every play, whatever
the transport yields.
-/

namespace TrafficWatch.Stream

/-- Every note of the script keeps a property. -/
def Script.Preserves {C R W : Type} (I : W → Prop) : Script C R W → Prop
  | .done => True
  | .look k => ∀ w, (k w).Preserves I
  | .note f k => (∀ w, I w → I (f w)) ∧ k.Preserves I
  | .call _ k => ∀ r, (k r).Preserves I

namespace Reader

variable {M H W : Type} {b : Behaviour M H (Program H W)} {I : W → Prop}
variable {now : Nat} {d : Dispatch M H W} {s s' : State M H W} {jitter : Rat}

/-- To dispatch an event keeps a property of what is beside the reader. -/
def KeepsOwn (I : W → Prop) (d : Dispatch M H W) : Prop :=
  ∀ e (s s' : State M H W), d e s = some s' → I s.own → I s'.own

theorem lasting_own (I : W → Prop) : Lasting (fun _ => True) fun s : State M H W => I s.own :=
  ⟨fun _ _ h => h, fun _ _ _ _ _ h => h⟩

theorem keepsOwn_iff : KeepsOwn I d ↔ Keeps (fun s => I s.own) (fun _ => True) d :=
  ⟨fun hd e s s' h _ hs => hd e s s' hs h, fun hd e s s' hs h => hd e s s' h trivial hs⟩

theorem KeepsOwn.perform (hd : KeepsOwn I d) {c : Call H} {r : Reply}
    (hc : perform b now d c s = some (s', r)) (h : I s.own) : I s'.own := by
  cases c with
  | subscribe kind handler | unsubscribe id | connect address | destroy | report =>
    obtain ⟨rfl, -⟩ := Prod.mk.inj (Option.some.inj hc)
    exact h
  | push frame =>
    obtain ⟨⟨s₁, r₁⟩, h₁, heq⟩ := Option.map_eq_some_iff.mp hc
    cases heq
    exact (keepsOwn_iff.mp hd).ingest (lasting_own I) h trivial h₁

theorem KeepsOwn.exec (hd : KeepsOwn I d) {q : Program H W} (hq : q.Preserves I)
    (he : exec b now d q s = some s') (h : I s.own) : I s'.own := by
  induction q generalizing s with
  | done =>
    obtain rfl := Option.some.inj he
    exact h
  | look k ih => exact ih _ (hq _) he h
  | note f k ih => exact ih hq.2 he (hq.1 _ h)
  | call c k ih =>
    obtain ⟨⟨s₁, r⟩, h₁, h₂⟩ := Option.bind_eq_some_iff.mp he
    exact ih r (hq r) h₂ (hd.perform h₁ h)

/-- Handlers whose notes keep the property keep it, to whatever depth they cause dispatches. -/
theorem keepsOwn_dispatch (hb : ∀ h e, (b.respond h e).Preserves I) (now depth : Nat) :
    KeepsOwn I (dispatch b now depth) :=
  keepsOwn_iff.mpr (keeps_dispatch fun _ hd h e _ _ hs hx =>
    (keepsOwn_iff.mpr hd).exec (hb h e) hx hs)

theorem KeepsOwn.resume (hd : KeepsOwn I d) {t : Task} {w : Wake}
    (hs : resume b now d jitter t w s = some s') (h : I s.own) : I s'.own :=
  ((keepsOwn_iff.mp hd).weaken _).resume (lasting_own I) (fun _ _ => trivial) (fun _ => trivial) h hs

end Reader

namespace Play

variable {M H W : Type} {b : Behaviour M H (Reader.Program H W)} {I : W → Prop}
variable {depth bound : Nat} {p p' : Play M H W}

/-- What a task goes on with comes from the script, and the reader waits for it. -/
theorem state_wake {t : Task} {w : Reader.Wake} (hw : p.wake t = some (w, p')) :
    p'.state = p.state := by
  simp only [wake] at hw
  repeat' split at hw
  all_goals cases hw
  all_goals rfl

theorem keepsOwn_advanceOne (hb : ∀ h e, (b.respond h e).Preserves I)
    (hp : advanceOne b depth p = some (some p')) (h : I p.state.own) : I p'.state.own := by
  unfold advanceOne at hp
  split at hp
  · cases hp
  · next t w p₁ hfound =>
    obtain ⟨t', -, hwake⟩ := List.exists_of_findSome?_eq_some hfound
    obtain ⟨⟨w', p₂⟩, hw, heq⟩ := Option.map_eq_some_iff.mp hwake
    cases heq
    obtain ⟨state, hstep, hp'⟩ := Option.bind_eq_some_iff.mp hp
    cases hp'
    have ho : I p₁.state.own := by
      rw [state_wake hw]
      exact h
    exact (Reader.keepsOwn_dispatch hb p₁.now depth).resume hstep ho

theorem keepsOwn_settle (hb : ∀ h e, (b.respond h e).Preserves I) {fuel : Nat}
    (hp : settle b depth fuel p = some p') (h : I p.state.own) : I p'.state.own := by
  induction fuel generalizing p with
  | zero => cases hp
  | succ fuel ih =>
    obtain ⟨next, hnext, hp⟩ := Option.bind_eq_some_iff.mp hp
    cases next with
    | none =>
      obtain rfl := Option.some.inj hp
      exact h
    | some p₁ => exact ih hp (keepsOwn_advanceOne hb hnext h)

theorem keepsOwn_passTo (hb : ∀ h e, (b.respond h e).Preserves I) {limit fuel : Nat}
    (hp : passTo b depth bound limit fuel p = some p') (h : I p.state.own) : I p'.state.own := by
  induction fuel generalizing p with
  | zero => cases hp
  | succ fuel ih =>
    unfold passTo at hp
    split at hp
    · obtain rfl := Option.some.inj hp
      exact h
    · obtain ⟨p₁, h₁, hp⟩ := Option.bind_eq_some_iff.mp hp
      exact ih hp (keepsOwn_settle hb h₁ h)

theorem send_eq (p : Play M H W) (session : Nat) (items : List Item) :
    p.send session items = { p with sessions := (p.send session items).sessions } := by
  unfold send
  split
  · split <;> rfl
  · rfl

theorem finish_eq (p : Play M H W) (session : Nat) :
    p.finish session = { p with sessions := (p.finish session).sessions } := by
  unfold finish
  split <;> rfl

theorem keepsOwn_perform (hb : ∀ h e, (b.respond h e).Preserves I) {op : Op H} {r : Reader.Reply}
    (hp : perform b depth bound op p = some (p', r)) (h : I p.state.own) : I p'.state.own := by
  cases op with
  | call c =>
    obtain ⟨⟨state, r₁⟩, h₁, heq⟩ := Option.bind_eq_some_iff.mp hp
    cases heq
    exact (Reader.keepsOwn_dispatch hb p.now depth).perform h₁ h
  | session plan =>
    cases hp
    exact h
  | send n items =>
    cases hp
    rw [send_eq]
    exact h
  | finish n =>
    cases hp
    rw [finish_eq]
    exact h
  | pass ms =>
    obtain ⟨p₁, h₁, heq⟩ := Option.map_eq_some_iff.mp hp
    cases heq
    exact keepsOwn_passTo hb h₁ h

/-- Whatever is done to a reader from outside, and whatever its tasks do about it: a property that
the notes of all handlers keep still holds of what is beside it. -/
theorem keepsOwn_step (hb : ∀ h e, (b.respond h e).Preserves I) {op : Op H} {r : Reader.Reply}
    (hp : step b depth bound op p = some (p', r)) (h : I p.state.own) : I p'.state.own := by
  obtain ⟨⟨p₁, r₁⟩, h₁, hp⟩ := Option.bind_eq_some_iff.mp hp
  obtain ⟨p₂, h₂, heq⟩ := Option.bind_eq_some_iff.mp hp
  cases heq
  exact keepsOwn_settle hb h₂ (keepsOwn_perform hb h₁ h)

end Play

end TrafficWatch.Stream
