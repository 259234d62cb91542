import TrafficWatch.Json.Document

/-!
Documents and their tokens. The tokens of a document, read from anywhere within a text, make that
document again and leave what follows them.
-/

namespace TrafficWatch.Json

mutual
/-- The tokens that a whole document is made of. -/
def Doc.tokens : Doc → List Token
  | .null => [.null]
  | .bool b => [.bool b]
  | .number v => [.number v]
  | .text v => [.text v]
  | .list [] _ => [.openList, .closeList]
  | .list (d :: ds) _ => .openList :: (d.tokens ++ (Doc.itemTokens ds ++ [.closeList]))
  | .object [] _ => [.openObject, .closeObject]
  | .object ((k, d) :: ms) _ =>
    .openObject :: .text ⟨k, none⟩ :: .colon ::
      (d.tokens ++ (Doc.memberTokens ms ++ [.closeObject]))
  | .broken f => [.stray f]

/-- Items after the first one. -/
def Doc.itemTokens : List Doc → List Token
  | [] => []
  | d :: ds => .comma :: (d.tokens ++ Doc.itemTokens ds)

def Doc.memberTokens : List (Except Fault String × Doc) → List Token
  | [] => []
  | (k, d) :: ms => .comma :: .text ⟨k, none⟩ :: .colon :: (d.tokens ++ Doc.memberTokens ms)
end

namespace Doc

/-- Passing over the document finds no fault. -/
def Faultless (d : Doc) : Prop := d.skip = .ok ()

theorem faultless_null : Faultless .null := rfl

theorem faultless_bool (b : Bool) : Faultless (.bool b) := rfl

theorem skip_scalar {α : Type} {v : Scalar α} :
    v.skipped.elim (.ok ()) Except.error = (.ok () : Except Fault Unit) ↔ v.skipped = none := by
  cases v.skipped <;> simp

theorem faultless_number {v : Scalar Number} : Faultless (.number v) ↔ v.skipped = none := by
  unfold Faultless
  rw [Doc.skip]
  exact skip_scalar

theorem faultless_text {v : Scalar String} : Faultless (.text v) ↔ v.skipped = none := by
  unfold Faultless
  rw [Doc.skip]
  exact skip_scalar

theorem not_faultless_broken (f : Fault) : ¬ Faultless (.broken f) := by
  simp [Faultless, Doc.skip]

theorem andThen_eq_ok {a b : Except Fault Unit} :
    (do a; b) = .ok () ↔ a = .ok () ∧ b = .ok () := by
  cases a <;> simp [bind, Except.bind]

theorem skipItems_eq_ok {ds : List Doc} : skipItems ds = .ok () ↔ ∀ d ∈ ds, d.Faultless := by
  induction ds with
  | nil => simp [skipItems]
  | cons d ds ih => rw [skipItems, andThen_eq_ok, ih, List.forall_mem_cons]; rfl

theorem skipMembers_eq_ok {ms : List Member} :
    skipMembers ms = .ok () ↔ ∀ m ∈ ms, m.2.Faultless := by
  induction ms with
  | nil => simp [skipMembers]
  | cons m ms ih => rw [skipMembers, andThen_eq_ok, ih, List.forall_mem_cons]; rfl

theorem fault?_eq_ok {e : Ending} :
    e.fault?.elim (.ok ()) Except.error = (.ok () : Except Fault Unit) ↔ e = .closed := by
  cases e <;> simp [Ending.fault?]

theorem faultless_list {ds : List Doc} {e : Ending} :
    Faultless (.list ds e) ↔ (∀ d ∈ ds, d.Faultless) ∧ e = .closed := by
  unfold Faultless
  rw [Doc.skip, andThen_eq_ok, skipItems_eq_ok, fault?_eq_ok]
  rfl

theorem faultless_object {ms : List Member} {e : Ending} :
    Faultless (.object ms e) ↔ (∀ m ∈ ms, m.2.Faultless) ∧ e = .closed := by
  unfold Faultless
  rw [Doc.skip, andThen_eq_ok, skipMembers_eq_ok, fault?_eq_ok]
  rfl

/-- How building goes on from a step. -/
def resume (ts : List Token) : Step → Doc × List Token
  | .next a fs => build a fs ts
  | .complete d => (d, ts)
  | .stop d => (d, [.finish])

theorem build_cons (a : Awaits) (fs : List Frame) (t : Token) (ts : List Token) :
    build a fs (t :: ts) = resume ts (step a fs t) := by
  rw [build]
  cases step a fs t <;> rfl

theorem step_of_start {a : Awaits} (ha : a = .value ∨ a = .valueOrClose) {fs : List Frame}
    {t : Token} {s : Step} (hs : start fs t = some s) : step a fs t = s := by
  obtain rfl | rfl := ha
  · simp [step, advance, hs]
  · cases t with
    | closeList => cases hs
    | _ => simp [step, advance, hs]

mutual
theorem build_tokens (d : Doc) (hd : d.Faultless) {a : Awaits}
    (ha : a = .value ∨ a = .valueOrClose) (fs : List Frame) (ts : List Token) :
    build a fs (d.tokens ++ ts) = resume ts (put d fs) := by
  match d, hd with
  | .null, _ => rw [tokens, List.singleton_append, build_cons, step_of_start ha rfl]
  | .bool b, _ => rw [tokens, List.singleton_append, build_cons, step_of_start ha rfl]
  | .number v, hd =>
    have hv := faultless_number.mp hd
    rw [tokens, List.singleton_append, build_cons, step_of_start ha rfl]
    simp [putScalar, hv]
  | .text v, hd =>
    have hv := faultless_text.mp hd
    rw [tokens, List.singleton_append, build_cons, step_of_start ha rfl]
    simp [putScalar, hv]
  | .list [] e, hd =>
    obtain ⟨-, rfl⟩ := faultless_list.mp hd
    rw [tokens, List.cons_append, build_cons, step_of_start ha rfl]
    rfl
  | .list (d :: ds) e, hd =>
    obtain ⟨hds, rfl⟩ := faultless_list.mp hd
    rw [List.forall_mem_cons] at hds
    rw [tokens, List.cons_append, build_cons, step_of_start ha rfl, List.append_assoc,
      List.append_assoc]
    exact (build_tokens d hds.1 (.inr rfl) _ _).trans (build_items ds hds.2 [d] fs ts)
  | .object [] e, hd =>
    obtain ⟨-, rfl⟩ := faultless_object.mp hd
    rw [tokens, List.cons_append, build_cons, step_of_start ha rfl]
    rfl
  | .object ((k, d) :: ms) e, hd =>
    obtain ⟨hms, rfl⟩ := faultless_object.mp hd
    rw [List.forall_mem_cons] at hms
    rw [tokens, List.cons_append, build_cons, step_of_start ha rfl, List.cons_append,
      List.cons_append, List.append_assoc, List.append_assoc]
    exact (build_tokens d hms.1 (.inl rfl) (.object [] (some k) :: fs) _).trans
      (build_members ms hms.2 [(k, d)] fs ts)
  | .broken f, hd => exact absurd hd (not_faultless_broken f)

/-- Items that follow others, up to the end of their list. -/
theorem build_items (ds : List Doc) (hds : ∀ d ∈ ds, d.Faultless) (done : List Doc)
    (fs : List Frame) (ts : List Token) :
    build .commaOrClose (.list done :: fs) (itemTokens ds ++ ([.closeList] ++ ts)) =
      resume ts (put (.list (done.reverse ++ ds) .closed) fs) := by
  match ds, hds with
  | [], _ =>
    rw [itemTokens, List.append_nil]
    rfl
  | d :: ds, hds =>
    rw [List.forall_mem_cons] at hds
    rw [itemTokens, List.cons_append, List.append_assoc]
    refine (build_tokens d hds.1 (.inl rfl) (.list done :: fs) _).trans ?_
    refine (build_items ds hds.2 (d :: done) fs ts).trans ?_
    rw [List.reverse_cons, List.append_assoc, List.singleton_append]

theorem build_members (ms : List Member) (hms : ∀ m ∈ ms, m.2.Faultless) (done : List Member)
    (fs : List Frame) (ts : List Token) :
    build .commaOrClose (.object done none :: fs) (memberTokens ms ++ ([.closeObject] ++ ts)) =
      resume ts (put (.object (done.reverse ++ ms) .closed) fs) := by
  match ms, hms with
  | [], _ =>
    rw [memberTokens, List.append_nil]
    rfl
  | (k, d) :: ms, hms =>
    rw [List.forall_mem_cons] at hms
    rw [memberTokens, List.cons_append, List.cons_append, List.cons_append, List.append_assoc]
    refine (build_tokens d hms.1 (.inl rfl) (.object done (some k) :: fs) _).trans ?_
    refine (build_members ms hms.2 ((k, d) :: done) fs ts).trans ?_
    rw [List.reverse_cons, List.append_assoc, List.singleton_append]
end

end Doc

end TrafficWatch.Json
