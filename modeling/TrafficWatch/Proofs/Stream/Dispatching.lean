import TrafficWatch.Proofs.Stream.ConcurrentFrames

/-!
Programs over a registry whose handlers act on it while they are called: they subscribe,
unsubscribe themselves and others, clear, and dispatch in turn. A run is told with the deeds that
were done in it, which are beside the run and do not change it. From the deeds alone one can say
what is registered at each time, and so whom each dispatch has to call.
-/

namespace TrafficWatch.Stream.Registry

variable {H M W : Type}

/-- What is done in a run. A dispatch is known by the number of deeds before it began. -/
inductive Deed (H M : Type) where
  | subscribed (id : SubscriptionId) (handler : H)
  | unsubscribed (id : SubscriptionId) (found : Bool)
  | cleared
  | began (event : Event M)
  | called (dispatch : Nat) (id : SubscriptionId) (handler : H)
  | ended (dispatch : Nat) (count : Nat)

namespace Deed

/-- The dispatch that a deed is part of. -/
def within : Deed H M → Option Nat
  | .called n _ _ | .ended n _ => some n
  | .subscribed _ _ | .unsubscribed _ _ | .cleared | .began _ => none

def ends (id : SubscriptionId) : Deed H M → Bool
  | .unsubscribed other _ => other == id
  | .cleared => true
  | .subscribed _ _ | .began _ | .called _ _ _ | .ended _ _ => false

def made? : Deed H M → Option SubscriptionId
  | .subscribed id _ => some id
  | _ => none

end Deed

/-- The subscriptions that are made and not ended later, in the order in which they are made. -/
def standing : List (Deed H M) → List (SubscriptionId × H)
  | [] => []
  | .subscribed id h :: later =>
    if later.any (·.ends id) then standing later else (id, h) :: standing later
  | _ :: later => standing later

def standingFor (kind : EventKind) (ds : List (Deed H M)) : List (SubscriptionId × H) :=
  (standing ds).filter (·.1.kind == kind)

/-- The subscriptions that are ever made. -/
def made (ds : List (Deed H M)) : List SubscriptionId := ds.filterMap Deed.made?

/-- The deeds of one dispatch. -/
def course (n : Nat) (ds : List (Deed H M)) : List (Deed H M) := ds.filter (·.within == some n)

def calls (n : Nat) (xs : List (SubscriptionId × H)) : List (Deed H M) :=
  xs.map fun x => .called n x.1 x.2

/-- A dispatch that goes as it should: it calls those who stood when it began, one after the other,
and returns how many they are. -/
def dueCourse (n : Nat) (e : Event M) (ds : List (Deed H M)) : List (Deed H M) :=
  let xs := standingFor e.kind (ds.take n)
  calls n xs ++ [.ended n xs.length]

/-- A deed, and the registry that it left. -/
structure Past (H M : Type) where
  deed : Deed H M
  registry : Registry H

abbrev Told (H M W : Type) := State H (W × List (Past H M))

def deedsOf (past : List (Past H M)) : List (Deed H M) := past.map (·.deed)

/-- The registry after so many deeds. -/
def registryAt (past : List (Past H M)) : Nat → Registry H
  | 0 => .empty
  | n + 1 => past[n]?.elim .empty (·.registry)

namespace Told

def plain (s : Told H M W) : State H W := (s.1, s.2.1)

def past (s : Told H M W) : List (Past H M) := s.2.2

def deeds (s : Told H M W) : List (Deed H M) := deedsOf s.past

def note (d : Deed H M) (s : Told H M W) : Told H M W := (s.1, s.2.1, s.past ++ [⟨d, s.1⟩])

def fresh (own : W) : Told H M W := (.empty, own, [])

/-- A dispatch that is known by a number. -/
abbrev Dispatch (H M W : Type) := Nat → Event M → Told H M W → Option (Told H M W × Nat)

def perform (dispatch : Dispatch H M W) (c : Call H M) (s : Told H M W) :
    Option (Told H M W × Reply) :=
  match c with
  | .subscribe kind h =>
    let (r, id) := s.1.subscribe kind h
    some (note (.subscribed id h) (r, s.2), .subscribed id)
  | .unsubscribe id =>
    let (r, found) := s.1.unsubscribe id
    some (note (.unsubscribed id found) (r, s.2), .unsubscribed found)
  | .clear => some (note .cleared (s.1.clear, s.2), .cleared)
  | .dispatch e =>
    let n := s.deeds.length
    (dispatch n e (s.note (.began e))).map fun (s, k) => (s.note (.ended n k), .dispatched k)

def exec (dispatch : Dispatch H M W) (p : Program H M W) (s : Told H M W) : Option (Told H M W) :=
  Script.exec (·.2) (fun f s => (s.1, f s.2)) (perform dispatch) p.beside s

def callAll (handle : H → Told H M W → Option (Told H M W)) (n : Nat)
    (xs : List (SubscriptionId × H)) (s : Told H M W) : Option (Told H M W) :=
  xs.foldlM (fun s x => handle x.2 (s.note (.called n x.1 x.2))) s

def dispatch (respond : H → Event M → Program H M W) : Nat → Dispatch H M W
  | 0, _, _, _ => none
  | depth + 1, n, e, s =>
    let xs := s.1.audience e.kind
    (callAll (fun h => exec (dispatch respond depth) (respond h e)) n xs s).map (·, xs.length)

end Told

/-! A run that is told does what the run does. -/

section Plain

variable {d' : Told.Dispatch H M W} {d : Event M → State H W → Option (State H W × Nat)}

def Tells (d' : Told.Dispatch H M W) (d : Event M → State H W → Option (State H W × Nat)) : Prop :=
  ∀ n e s, (d' n e s).map (fun r => (r.1.plain, r.2)) = d e s.plain

theorem Tells.perform (h : Tells d' d) (c : Call H M) (s : Told H M W) :
    (Told.perform d' c s).map (fun r => (r.1.plain, r.2)) = Registry.perform d c s.plain := by
  cases c with
  | subscribe kind handler | unsubscribe id | clear => rfl
  | dispatch e =>
    have hd : (d' s.deeds.length e (s.note (.began e))).map (fun r => (r.1.plain, r.2)) =
        d e s.plain := h _ e (s.note (.began e))
    simp only [Told.perform, Registry.perform, ← hd]
    cases d' s.deeds.length e (s.note (.began e)) <;> rfl

theorem Tells.exec (h : Tells d' d) (p : Program H M W) (s : Told H M W) :
    (Told.exec d' p s).map Told.plain = Registry.exec d p s.plain := by
  refine Script.map_exec_beside Told.plain ?_ ?_ h.perform p s
  · exact fun _ => rfl
  · exact fun _ _ => rfl

theorem plain_callAll {handle' : H → Told H M W → Option (Told H M W)}
    {handle : H → State H W → Option (State H W)}
    (h : ∀ x s, (handle' x s).map Told.plain = handle x s.plain) (n : Nat)
    (xs : List (SubscriptionId × H)) (s : Told H M W) :
    (Told.callAll handle' n xs s).map Told.plain =
      (xs.map (·.2)).foldlM (fun s x => handle x s) s.plain := by
  induction xs generalizing s with
  | nil => rfl
  | cons x xs ih =>
    have hx : (handle' x.2 (s.note (.called n x.1 x.2))).map Told.plain = handle x.2 s.plain := h _ _
    simp only [Told.callAll, List.foldlM_cons, List.map_cons, ← hx]
    cases handle' x.2 (s.note (.called n x.1 x.2)) with
    | none => rfl
    | some s₁ => exact ih s₁

theorem tells_dispatch (respond : H → Event M → Program H M W) (depth : Nat) :
    Tells (Told.dispatch respond depth) (dispatch respond depth) := by
  induction depth with
  | zero => exact fun _ _ _ => rfl
  | succ depth ih =>
    intro n e s
    have hall := plain_callAll (fun h s => ih.exec (respond h e) s) n (s.1.audience e.kind) s
    have hlength : (s.1.audience e.kind).length = (s.1.handlers e.kind).length :=
      (List.length_map _).symm
    have hhandlers : (s.1.audience e.kind).map (·.2) = s.plain.1.handlers e.kind := rfl
    simp only [Told.dispatch, Registry.dispatch, hlength]
    rw [hhandlers] at hall
    rw [← hall]
    cases Told.callAll _ n (s.1.audience e.kind) s <;> rfl

end Plain

/-! What stands after each deed. -/

section Standing

variable {ds ds' later : List (Deed H M)} {d : Deed H M} {n : Nat}

/-- Of what stood, there remains what is not ended later. -/
theorem standing_append (ds later : List (Deed H M)) :
    standing (ds ++ later) =
      (standing ds).filter (fun x => ! later.any (·.ends x.1)) ++ standing later := by
  induction ds with
  | nil => rfl
  | cons d ds ih =>
    cases d with
    | subscribed id h =>
      simp only [List.cons_append, standing, List.any_append, ih]
      cases ds.any (·.ends id) with
      | true => simp
      | false => cases hl : later.any (·.ends id) <;> simp [hl]
    | unsubscribed id found | cleared | began e | called n id h | ended n k => exact ih

theorem standing_subscribed (ds : List (Deed H M)) (id : SubscriptionId) (h : H) :
    standing (ds ++ [.subscribed id h]) = standing ds ++ [(id, h)] := by
  simp [standing_append, standing, Deed.ends]

theorem standing_unsubscribed (ds : List (Deed H M)) (id : SubscriptionId) (found : Bool) :
    standing (ds ++ [.unsubscribed id found]) = (standing ds).filter (·.1 != id) := by
  simp only [standing_append, standing, List.append_nil]
  refine List.filter_congr fun x _ => ?_
  simp [Deed.ends, bne, Bool.beq_comm]

theorem standing_cleared (ds : List (Deed H M)) : standing (ds ++ [.cleared]) = [] := by
  simp [standing_append, standing, Deed.ends]

/-- A deed that is about a dispatch leaves the subscriptions alone. -/
theorem standing_dispatch (ds : List (Deed H M)) (hmade : d.made? = none)
    (hends : ∀ id, d.ends id = false) : standing (ds ++ [d]) = standing ds := by
  cases d with
  | subscribed id h => cases hmade
  | unsubscribed id found => simpa [Deed.ends] using hends id
  | cleared => simpa [Deed.ends] using hends ⟨.data, 0⟩
  | began e | called n id h | ended n k => simp [standing_append, standing, Deed.ends]

theorem made_concat (ds : List (Deed H M)) (d : Deed H M) :
    made (ds ++ [d]) = made ds ++ d.made?.toList := by
  unfold made
  rw [List.filterMap_append]
  cases d <;> rfl

theorem made_sublist (h : ds <+: ds') :
    (made ds).Sublist (made ds') := h.sublist.filterMap _

/-- What stands was made in the same order. -/
theorem standing_sublist_made (ds : List (Deed H M)) :
    ((standing ds).map (·.1)).Sublist (made ds) := by
  induction ds with
  | nil => exact List.Sublist.refl _
  | cons d ds ih =>
    cases d with
    | subscribed id h =>
      rw [standing]
      split
      · exact ih.cons id
      · exact ih.cons_cons id
    | unsubscribed id found | cleared | began e | called n id h | ended n k => exact ih

theorem course_append (n : Nat) (ds later : List (Deed H M)) :
    course n (ds ++ later) = course n ds ++ course n later := List.filter_append _ _

theorem course_eq_nil (h : ∀ d ∈ ds, d.within ≠ some n) : course n ds = [] :=
  List.filter_eq_nil_iff.mpr fun d hd => by simpa using h d hd

end Standing

/-! The course of the dispatches. -/

section Running

/-- Every dispatch that began has gone as it should, but for those that are open: of these it is
said how far they have come. -/
structure Running (o : Nat → Option (List (Deed H M))) (ds : List (Deed H M)) : Prop where
  bounded : ∀ d ∈ ds, ∀ n, d.within = some n → n < ds.length
  opened : ∀ n, o n ≠ none → n < ds.length
  dispatched : ∀ n e, ds[n]? = some (.began e) → course n ds = (o n).getD (dueCourse n e ds)

variable {o : Nat → Option (List (Deed H M))} {ds later : List (Deed H M)} {d : Deed H M} {n : Nat}

theorem dueCourse_append (hn : n ≤ ds.length) (e : Event M) (later : List (Deed H M)) :
    dueCourse n e (ds ++ later) = dueCourse n e ds := by
  unfold dueCourse
  rw [List.take_append_of_le_length hn]

theorem course_concat (n : Nat) (ds : List (Deed H M)) (d : Deed H M) :
    course n (ds ++ [d]) = if d.within = some n then course n ds ++ [d] else course n ds := by
  rw [course_append]
  split <;> simp_all [course]

/-- A further deed is of no dispatch, or of one that is known. -/
theorem Running.bounded_concat (h : Running o ds) (hd : ∀ n, d.within = some n → n < ds.length) :
    ∀ x ∈ ds ++ [d], ∀ n, x.within = some n → n < (ds ++ [d]).length := by
  intro x hx n hn
  rw [List.length_append]
  refine Nat.lt_add_right _ ?_
  rcases List.mem_append.mp hx with hx | hx
  · exact h.bounded x hx n hn
  · exact hd n (List.mem_singleton.mp hx ▸ hn)

/-- A dispatch that began is not the last deed, unless it is the one that begins. -/
theorem began_lt {e : Event M} (hd : ∀ e, d ≠ .began e) (hn : (ds ++ [d])[n]? = some (.began e)) :
    n < ds.length ∧ ds[n]? = some (.began e) := by
  have hlt : n < ds.length := by
    obtain ⟨hlt, hget⟩ := List.getElem?_eq_some_iff.mp hn
    by_contra hge
    obtain rfl : n = ds.length := by simp only [List.length_append, List.length_singleton] at hlt; omega
    exact hd e (by simpa using hget)
  exact ⟨hlt, by rwa [List.getElem?_append_left hlt] at hn⟩

theorem Running.aside (h : Running o ds) (hd : d.within = none) (hbegan : ∀ e, d ≠ .began e) :
    Running o (ds ++ [d]) where
  bounded := h.bounded_concat (by simp [hd])
  opened n hn := (h.opened n hn).trans_le (by simp)
  dispatched n e hn := by
    obtain ⟨hlt, hget⟩ := began_lt hbegan hn
    rw [course_concat, if_neg (by simp [hd]), dueCourse_append hlt.le, h.dispatched n e hget]

/-- A dispatch is open when it begins. -/
theorem Running.begin (h : Running o ds) (e : Event M) :
    Running (Function.update o ds.length (some [])) (ds ++ [.began e]) where
  bounded := h.bounded_concat nofun
  opened n hn := by
    rcases eq_or_ne n ds.length with rfl | hne
    · simp
    · rw [Function.update_of_ne hne] at hn
      exact (h.opened n hn).trans_le (by simp)
  dispatched n e' hn := by
    rw [course_concat, if_neg nofun]
    rcases eq_or_ne n ds.length with rfl | hne
    · have hnil : course ds.length ds = [] := by
        refine course_eq_nil fun d hd hw => ?_
        exact Nat.lt_irrefl _ (h.bounded d hd _ hw)
      simp [hnil]
    · have hlt : n < ds.length := by
        have hlt := (List.getElem?_eq_some_iff.mp hn).1
        simp only [List.length_append, List.length_singleton] at hlt
        omega
      rw [List.getElem?_append_left hlt] at hn
      rw [Function.update_of_ne hne, dueCourse_append hlt.le, h.dispatched n e' hn]

/-- An open dispatch goes on by its next deed. -/
theorem Running.goOn (h : Running o ds) {c : List (Deed H M)} (hd : d.within = some n)
    (ho : o n = some c) : Running (Function.update o n (some (c ++ [d]))) (ds ++ [d]) where
  bounded := h.bounded_concat fun m hm => by
    obtain rfl : n = m := Option.some.inj (hd.symm.trans hm)
    exact h.opened n (by simp [ho])
  opened m hm := by
    have hlt : m < ds.length := by
      rcases eq_or_ne m n with rfl | hne
      · exact h.opened m (by simp [ho])
      · rw [Function.update_of_ne hne] at hm
        exact h.opened m hm
    exact hlt.trans_le (by simp)
  dispatched m e hm := by
    have hbegan : ∀ e, d ≠ .began e := by
      rintro e rfl
      cases hd
    obtain ⟨hlt, hget⟩ := began_lt hbegan hm
    have hcourse := h.dispatched m e hget
    rw [course_concat, dueCourse_append hlt.le]
    rcases eq_or_ne m n with rfl | hne
    · rw [if_pos hd, hcourse]
      simp [ho]
    · rw [if_neg (by simpa [hd] using hne.symm), hcourse, Function.update_of_ne hne]

/-- A dispatch that has gone as it should is open no longer. -/
theorem Running.finish (h : Running o ds) {e : Event M} (he : ds[n]? = some (.began e))
    (ho : o n = some (dueCourse n e ds)) : Running (Function.update o n none) ds where
  bounded := h.bounded
  opened m hm := by
    rcases eq_or_ne m n with rfl | hne
    · simp at hm
    · exact h.opened m (by rwa [Function.update_of_ne hne] at hm)
  dispatched m e' hm := by
    rcases eq_or_ne m n with rfl | hne
    · obtain rfl : e = e' := Deed.began.inj (Option.some.inj (he.symm.trans hm))
      rw [h.dispatched m e hm]
      simp [ho]
    · rw [Function.update_of_ne hne]
      exact h.dispatched m e' hm

/-- A dispatch that has called all that it had to call ends with their number. -/
theorem Running.complete {before : List (Deed H M)} {e : Event M} (hopen : o before.length = none)
    (hbegan : before ++ [.began e] <+: ds)
    (h : Running (Function.update o before.length
      (some (calls before.length (standingFor e.kind before)))) ds) :
    Running o (ds ++ [.ended before.length (standingFor e.kind before).length]) := by
  let n := before.length
  let last : Deed H M := .ended n (standingFor e.kind before).length
  obtain ⟨later, rfl⟩ := hbegan
  have hlast : Running _ (before ++ [.began e] ++ later ++ [last]) :=
    h.goOn rfl (Function.update_self _ _ _)
  have hwhole : calls n (standingFor e.kind before) ++ [last] =
      dueCourse n e (before ++ [.began e] ++ later ++ [last]) := by
    simp [dueCourse, n, last]
  have hget : (before ++ [.began e] ++ later ++ [last])[n]? = some (.began e) := by simp [n]
  have hfinish := hlast.finish hget (by rw [Function.update_self, hwhole])
  rwa [Function.update_idem, Function.update_idem, Function.update_eq_self_iff.mpr hopen.symm]
    at hfinish

end Running

/-- What the deeds of a run say of the registry is so after each of them. -/
structure Recorded (past : List (Past H M)) : Prop where
  registered : ∀ n ≤ past.length, (registryAt past n).entries = standing ((deedsOf past).take n)
  numbered : (made (deedsOf past)).Pairwise (·.number < ·.number)
  found : ∀ n id found, (deedsOf past)[n]? = some (.unsubscribed id found) →
    (found = true ↔ id ∈ (standing ((deedsOf past).take n)).map (·.1))

namespace Told

/-- What holds between any two calls of a run. -/
structure Sound (s : Told H M W) : Prop extends Recorded s.past where
  current : registryAt s.past s.past.length = s.1
  next : ∀ id ∈ made s.deeds, id.number < s.1.nextNumber

variable {s s' : Told H M W} {o : Nat → Option (List (Deed H M))}

@[simp] theorem deeds_note (d : Deed H M) (s : Told H M W) : (s.note d).deeds = s.deeds ++ [d] :=
  List.map_append ..

theorem length_deeds (s : Told H M W) : s.deeds.length = s.past.length := List.length_map _

theorem Sound.now (h : s.Sound) : s.1.entries = standing s.deeds := by
  have hlast := h.registered s.past.length le_rfl
  have hall : (deedsOf s.past).take s.past.length = s.deeds :=
    List.take_of_length_le (length_deeds s).le
  rwa [h.current, hall] at hlast

theorem registryAt_append {n : Nat} {past : List (Past H M)} (hn : n ≤ past.length)
    (later : List (Past H M)) : registryAt (past ++ later) n = registryAt past n := by
  cases n with
  | zero => rfl
  | succ n => rw [registryAt, registryAt, List.getElem?_append_left hn]

/-- A deed is sound by what it says of the registry before it and makes of it. -/
theorem Sound.note (h : s.Sound) {r : Registry H} {d : Deed H M}
    (hr : r.entries = standing (s.deeds ++ [d])) (hnext : s.1.nextNumber ≤ r.nextNumber)
    (hmade : ∀ id, d.made? = some id → s.1.nextNumber ≤ id.number ∧ id.number < r.nextNumber)
    (hfound : ∀ id found, d = .unsubscribed id found →
      (found = true ↔ id ∈ (standing s.deeds).map (·.1))) :
    Sound (Told.note d (r, s.2)) where
  registered n hn := by
    have hpast : (Told.note d (r, s.2)).past = s.past ++ [⟨d, r⟩] := rfl
    have hdeeds : deedsOf (Told.note d (r, s.2)).past = s.deeds ++ [d] := deeds_note d (r, s.2)
    rw [hdeeds]
    rw [hpast, List.length_append, List.length_singleton] at hn
    rcases Nat.lt_or_ge s.past.length n with hlt | hle
    · obtain rfl : n = s.past.length + 1 := by omega
      have hlast : registryAt (Told.note d (r, s.2)).past (s.past.length + 1) = r := by
        simp [registryAt, hpast]
      rw [hlast, hr, List.take_of_length_le (by simp [length_deeds])]
    · rw [hpast, registryAt_append hle, List.take_append_of_le_length (by rwa [length_deeds])]
      exact h.registered n hle
  numbered := by
    have hdeeds : deedsOf (Told.note d (r, s.2)).past = s.deeds ++ [d] := deeds_note d (r, s.2)
    rw [hdeeds, made_concat]
    refine List.pairwise_append.mpr ⟨h.numbered, ?_, ?_⟩
    · cases d.made? <;> simp
    · intro id hid id' hid'
      exact (h.next id hid).trans_le (hmade id' (Option.mem_toList.mp hid')).1
  found n id found hn := by
    have hdeeds : deedsOf (Told.note d (r, s.2)).past = s.deeds ++ [d] := deeds_note d (r, s.2)
    rw [hdeeds] at hn ⊢
    rcases Nat.lt_or_ge n s.deeds.length with hlt | hge
    · rw [List.getElem?_append_left hlt] at hn
      rw [List.take_append_of_le_length hlt.le]
      exact h.found n id found hn
    · have hlast := (List.getElem?_eq_some_iff.mp hn).1
      obtain rfl : n = s.deeds.length := by
        simp only [List.length_append, List.length_singleton] at hlast
        omega
      rw [List.take_left]
      exact hfound id found (by simpa using hn)
  current := by
    have hpast : (Told.note d (r, s.2)).past = s.past ++ [⟨d, r⟩] := rfl
    have hnow : (Told.note d (r, s.2)).1 = r := rfl
    simp [registryAt, hpast, hnow]
  next id hid := by
    have hdeeds : (Told.note d (r, s.2)).deeds = s.deeds ++ [d] := deeds_note d (r, s.2)
    rw [hdeeds, made_concat] at hid
    rcases List.mem_append.mp hid with hid | hid
    · exact (h.next id hid).trans_le hnext
    · exact (hmade id (Option.mem_toList.mp hid)).2

/-- A deed that is about a dispatch is sound. -/
theorem Sound.note_dispatch (h : s.Sound) {d : Deed H M} (hmade : d.made? = none)
    (hends : ∀ id, d.ends id = false) : (s.note d).Sound := by
  refine h.note (r := s.1) ?_ le_rfl ?_ ?_
  · rw [standing_dispatch s.deeds hmade hends]
    exact h.now
  · rintro id hid
    cases hmade.symm.trans hid
  · rintro id found rfl
    simpa [Deed.ends] using hends id

theorem Sound.subscribe (h : s.Sound) (kind : EventKind) (handler : H) :
    Sound (Told.note (.subscribed (s.1.subscribe kind handler).2 handler)
      ((s.1.subscribe kind handler).1, s.2)) := by
  refine h.note ?_ (Nat.le_succ _) ?_ nofun
  · rw [standing_subscribed, ← h.now]
    rfl
  · rintro id hid
    obtain rfl := Option.some.inj hid
    exact ⟨le_rfl, Nat.lt_succ_self _⟩

theorem Sound.unsubscribe (h : s.Sound) (id : SubscriptionId) :
    Sound (Told.note (.unsubscribed id (s.1.unsubscribe id).2 : Deed H M)
      ((s.1.unsubscribe id).1, s.2)) := by
  refine h.note ?_ le_rfl nofun ?_
  · rw [standing_unsubscribed, ← h.now]
    rfl
  · rintro id' found heq
    obtain ⟨rfl, rfl⟩ := Deed.unsubscribed.inj heq
    simp [Registry.unsubscribe, h.now]

theorem Sound.clear (h : s.Sound) : Sound (Told.note .cleared (s.1.clear, s.2)) := by
  refine h.note ?_ le_rfl nofun nofun
  rw [standing_cleared]
  rfl

/-- What a run keeps that is inside some dispatches: it adds to the deeds, and to none of those
dispatches. -/
structure Inside (o : Nat → Option (List (Deed H M))) (before : List (Deed H M))
    (s : Told H M W) : Prop where
  grown : before <+: s.deeds
  sound : s.Sound
  running : Running o s.deeds

theorem Inside.note {before : List (Deed H M)} (h : Inside o before s) {r : Registry H}
    {d : Deed H M} (hsound : Sound (Told.note d (r, s.2))) (hd : d.within = none)
    (hbegan : ∀ e, d ≠ .began e) : Inside o before (Told.note d (r, s.2)) where
  grown := by
    rw [deeds_note]
    exact h.grown.trans (List.prefix_append _ _)
  sound := hsound
  running := by
    rw [deeds_note]
    exact h.running.aside hd hbegan

/-- A dispatch that is open calls those who are registered, and says how many they are. -/
def Settles (d : Dispatch H M W) : Prop :=
  ∀ ⦃n e o s s'⦄ ⦃k : Nat⦄ ⦃c : List (Deed H M)⦄, o n = some c → Sound s → Running o s.deeds →
    d n e s = some (s', k) → k = (s.1.audience e.kind).length ∧
      Inside (Function.update o n (some (c ++ calls n (s.1.audience e.kind)))) s.deeds s'

theorem Settles.perform {d : Dispatch H M W} (hd : Settles d) {before : List (Deed H M)}
    {c : Call H M} {r : Reply} (h : Inside o before s) (hc : perform d c s = some (s', r)) :
    Inside o before s' := by
  cases c with
  | subscribe kind handler =>
    obtain ⟨rfl, -⟩ := Prod.mk.inj (Option.some.inj hc)
    exact h.note (h.sound.subscribe kind handler) rfl nofun
  | unsubscribe id =>
    obtain ⟨rfl, -⟩ := Prod.mk.inj (Option.some.inj hc)
    exact h.note (h.sound.unsubscribe id) rfl nofun
  | clear =>
    obtain ⟨rfl, -⟩ := Prod.mk.inj (Option.some.inj hc)
    exact h.note h.sound.clear rfl nofun
  | dispatch e =>
    obtain ⟨⟨s₁, k⟩, h₁, heq⟩ := Option.map_eq_some_iff.mp hc
    obtain ⟨rfl, -⟩ := Prod.mk.inj heq
    let n := s.deeds.length
    have hbegan : (s.note (.began e)).Sound := h.sound.note_dispatch rfl fun _ => rfl
    have hopen : Running (Function.update o n (some [])) (s.note (.began e)).deeds := by
      rw [deeds_note]
      exact h.running.begin e
    obtain ⟨rfl, hs₁⟩ := hd (Function.update_self _ _ _) hbegan hopen h₁
    have hgrown : s.deeds ++ [.began e] <+: s₁.deeds := by simpa using hs₁.grown
    have haudience : (s.note (.began e)).1.audience e.kind = standingFor e.kind s.deeds :=
      congrArg (List.filter _) h.sound.now
    have hcalled := hs₁.running
    rw [Function.update_idem, List.nil_append, haudience] at hcalled
    have hnone : o n = none := by
      by_contra hn
      exact Nat.lt_irrefl _ (h.running.opened n hn)
    rw [haudience]
    exact
      { grown := by
          rw [deeds_note]
          exact (h.grown.trans ((List.prefix_append _ _).trans hgrown)).trans
            (List.prefix_append _ _)
        sound := hs₁.sound.note_dispatch rfl fun _ => rfl
        running := by
          rw [deeds_note]
          exact hcalled.complete hnone hgrown }

theorem Settles.exec {d : Dispatch H M W} (hd : Settles d) {before : List (Deed H M)}
    (p : Program H M W) (h : Inside o before s) (hs : exec d p s = some s') :
    Inside o before s' :=
  Script.exec_beside_keeps (fun _ h => ⟨h.grown, ⟨h.sound.toRecorded, h.sound.current, h.sound.next⟩,
    h.running⟩) (fun h hc => hd.perform h hc) p h hs

/-- Whatever the handlers do, they are called one after the other. -/
theorem callAll_inside {handle : H → Told H M W → Option (Told H M W)} {n : Nat}
    {before : List (Deed H M)}
    (hhandle : ∀ {o x s s'}, Inside o before s → handle x s = some s' → Inside o before s')
    (xs : List (SubscriptionId × H)) {c : List (Deed H M)} (ho : o n = some c)
    (h : Inside o before s) (hs : callAll handle n xs s = some s') :
    Inside (Function.update o n (some (c ++ calls n xs))) before s' := by
  induction xs generalizing s o c with
  | nil =>
    obtain rfl := Option.some.inj hs
    rwa [calls, List.map_nil, List.append_nil, ← ho, Function.update_eq_self]
  | cons x xs ih =>
    obtain ⟨s₁, h₁, h₂⟩ := Option.bind_eq_some_iff.mp hs
    have hcalled : Inside (Function.update o n (some (c ++ [.called n x.1 x.2]))) before
        (s.note (.called n x.1 x.2)) :=
      { grown := by
          rw [deeds_note]
          exact h.grown.trans (List.prefix_append _ _)
        sound := h.sound.note_dispatch rfl fun _ => rfl
        running := by
          rw [deeds_note]
          exact h.running.goOn rfl ho }
    have hrest := ih (Function.update_self _ _ _) (hhandle hcalled h₁) h₂
    rwa [Function.update_idem, List.append_assoc] at hrest

theorem settles_dispatch (respond : H → Event M → Program H M W) (depth : Nat) :
    Settles (dispatch respond depth) := by
  induction depth with
  | zero =>
    intro n e o s s' k c _ _ _ hs
    cases hs
  | succ depth ih =>
    intro n e o s s' k c ho hsound hrunning hs
    obtain ⟨s₁, h₁, heq⟩ := Option.map_eq_some_iff.mp hs
    obtain ⟨rfl, rfl⟩ := Prod.mk.inj heq
    have hinside : Inside o s.deeds s := ⟨List.prefix_rfl, hsound, hrunning⟩
    exact ⟨rfl, callAll_inside (fun h hx => ih.exec _ h hx) _ ho hinside h₁⟩

/-! The depth of a run says when it has a result, not which. -/

def Extends (d d' : Dispatch H M W) : Prop := ∀ ⦃n e s r⦄, d n e s = some r → d' n e s = some r

theorem Extends.perform {d d' : Dispatch H M W} (h : Extends d d') {c : Call H M}
    {r : Told H M W × Reply} (hc : perform d c s = some r) : perform d' c s = some r := by
  cases c with
  | subscribe kind handler | unsubscribe id | clear => exact hc
  | dispatch e =>
    obtain ⟨r₁, h₁, h₂⟩ := Option.map_eq_some_iff.mp hc
    exact Option.map_eq_some_iff.mpr ⟨r₁, h h₁, h₂⟩

theorem Extends.exec {d d' : Dispatch H M W} (h : Extends d d') (p : Program H M W)
    (hs : exec d p s = some s') : exec d' p s = some s' :=
  Script.exec_of_exec (fun hc => h.perform hc) p.beside hs

theorem callAll_of_callAll {handle handle' : H → Told H M W → Option (Told H M W)}
    (h : ∀ {x s s'}, handle x s = some s' → handle' x s = some s') (n : Nat)
    (xs : List (SubscriptionId × H)) (hs : callAll handle n xs s = some s') :
    callAll handle' n xs s = some s' := by
  induction xs generalizing s with
  | nil => exact hs
  | cons x xs ih =>
    obtain ⟨s₁, h₁, h₂⟩ := Option.bind_eq_some_iff.mp hs
    exact Option.bind_eq_some_iff.mpr ⟨s₁, h h₁, ih h₂⟩

theorem extends_succ (respond : H → Event M → Program H M W) (depth : Nat) :
    Extends (dispatch respond depth) (dispatch respond (depth + 1)) := by
  induction depth with
  | zero => exact nofun
  | succ depth ih =>
    intro n e s r hr
    obtain ⟨s₁, h₁, h₂⟩ := Option.map_eq_some_iff.mp hr
    exact Option.map_eq_some_iff.mpr
      ⟨s₁, callAll_of_callAll (fun hx => ih.exec _ hx) n _ h₁, h₂⟩

theorem extends_of_le (respond : H → Event M → Program H M W) {depth deeper : Nat}
    (h : depth ≤ deeper) : Extends (dispatch respond depth) (dispatch respond deeper) := by
  induction h with
  | refl => exact fun _ _ _ _ hr => hr
  | step _ ih => exact fun _ _ _ _ hr => extends_succ respond _ (ih hr)

/-- A run from the beginning keeps everything that it has to keep, with no dispatch left open. -/
theorem inside_of_exec (respond : H → Event M → Program H M W) (depth : Nat) (p : Program H M W)
    (own : W) (hs : exec (dispatch respond depth) p (fresh own) = some s) :
    Inside (fun _ => none) [] s := by
  refine (settles_dispatch respond depth).exec p ?_ hs
  exact
    { grown := List.prefix_rfl
      sound :=
        { registered := by
            rintro n hn
            obtain rfl : n = 0 := Nat.le_zero.mp hn
            rfl
          numbered := List.Pairwise.nil
          found := nofun
          current := rfl
          next := nofun }
      running := ⟨nofun, fun _ h => absurd rfl h, nofun⟩ }

end Told

/-- What is to be said of all the deeds of a run and of the registry between them. -/
structure Account (past : List (Past H M)) : Prop where
  /-- The handlers that were registered when the dispatch began are called, and nothing else. -/
  dispatched : ∀ n e, (deedsOf past)[n]? = some (.began e) →
    course n (deedsOf past) = calls n ((registryAt past n).audience e.kind) ++
      [.ended n ((registryAt past n).count e.kind)]
  /-- So they are called in the order of their registration, and each once. -/
  inOrder : ∀ n ≤ past.length,
    ((registryAt past n).entries.map (·.1)).Pairwise (·.number < ·.number)
  fresh : (made (deedsOf past)).Pairwise (·.number < ·.number)
  unsubscribed : ∀ n id found, (deedsOf past)[n]? = some (.unsubscribed id found) →
    (found = true ↔ id ∈ (registryAt past n).entries.map (·.1)) ∧
      (registryAt past (n + 1)).entries = (registryAt past n).entries.filter (·.1 != id)
  counted : ∀ n ≤ past.length, ∀ kind,
    (registryAt past n).count kind = (standingFor kind ((deedsOf past).take n)).length

theorem Told.Inside.account {s : Told H M W} (h : Inside (fun _ => none) [] s) :
    Account s.past := by
  have hregistered := h.sound.registered
  have hstanding : ∀ n ≤ s.past.length, ∀ kind,
      (registryAt s.past n).audience kind = standingFor kind (s.deeds.take n) :=
    fun n hn _ => congrArg (List.filter _) (hregistered n hn)
  have hcount : ∀ (r : Registry H) kind, r.count kind = (r.audience kind).length :=
    fun _ _ => List.length_map _
  refine ⟨fun n e hn => ?_, fun n hn => ?_, h.sound.numbered, fun n id found hn => ?_,
    fun n hn kind => ?_⟩
  · have hlt : n < s.past.length := Told.length_deeds s ▸ (List.getElem?_eq_some_iff.mp hn).1
    have hcourse := h.running.dispatched n e hn
    rw [hcount, hstanding n hlt.le]
    exact hcourse
  · rw [hregistered n hn]
    exact h.sound.numbered.sublist
      ((standing_sublist_made _).trans (made_sublist (List.take_prefix _ _)))
  · have hlt : n < s.deeds.length := (List.getElem?_eq_some_iff.mp hn).1
    have hle : n + 1 ≤ s.past.length := Told.length_deeds s ▸ hlt
    rw [hregistered n (Nat.le_of_succ_le hle), hregistered (n + 1) hle]
    refine ⟨h.sound.found n id found hn, ?_⟩
    rw [List.take_add_one, hn]
    exact standing_unsubscribed _ id found
  · rw [hcount, hstanding n hn]
    rfl

/-- A program whose dispatches come to an end has an account, which is the same however deep the
dispatches may go, and the registry that it leaves is the last of the account. -/
theorem exec_account (respond : H → Event M → Program H M W) (depth : Nat) (p : Program H M W)
    (own : W) {s : State H W} (h : exec (dispatch respond depth) p (.empty, own) = some s) :
    ∃ past : List (Past H M),
      (∀ deeper ≥ depth, Told.exec (Told.dispatch respond deeper) p (Told.fresh own) =
        some (s.1, s.2, past)) ∧ Account past ∧ registryAt past past.length = s.1 := by
  have htold := (tells_dispatch respond depth).exec p (Told.fresh own)
  rw [show exec (dispatch respond depth) p (Told.fresh own : Told H M W).plain = some s from h]
    at htold
  obtain ⟨⟨r, w, past⟩, ht, rfl⟩ := Option.map_eq_some_iff.mp htold
  have hinside := Told.inside_of_exec respond depth p own ht
  refine ⟨past, fun deeper hdeeper => ?_, hinside.account, hinside.sound.current⟩
  exact (Told.extends_of_le respond hdeeper).exec p ht

/-- Handler 0 leaves, lets 2 in, and tells of the end of the channel, on which 3 clears all. -/
def restless : Nat → Event Unit → Program Nat Unit (List Nat)
  | 0, _ => .note (· ++ [0]) (.call (.unsubscribe ⟨.data, 1⟩) fun _ =>
      .call (.subscribe .data 2) fun _ => .just (.dispatch .close))
  | 3, _ => .note (· ++ [3]) (.just .clear)
  | h, _ => .note (· ++ [h]) .done

def restlessRun : Program Nat Unit (List Nat) :=
  .call (.subscribe .data 0) fun _ => .call (.subscribe .data 1) fun _ =>
  .call (.subscribe .close 3) fun _ => .call (.dispatch (.data ())) fun _ =>
  .call (.subscribe .data 2) fun _ => .just (.unsubscribe ⟨.data, 1⟩)

theorem restless_account :
    ∃ s, exec (dispatch restless 2) restlessRun (.empty, []) = some s ∧
      s.1.entries = [(⟨.data, 5⟩, 2)] ∧ s.2 = [0, 3, 1] ∧
      ∃ past : List (Past Nat Unit),
        (∀ deeper ≥ 2, Told.exec (Told.dispatch restless deeper) restlessRun (Told.fresh []) =
          some (s.1, s.2, past)) ∧ Account past ∧ registryAt past past.length = s.1 := by
  obtain ⟨s, hs, hentries, hcalled⟩ :
      ∃ s, exec (dispatch restless 2) restlessRun (.empty, []) = some s ∧
        s.1.entries = [(⟨.data, 5⟩, 2)] ∧ s.2 = [0, 3, 1] := ⟨_, rfl, rfl, rfl⟩
  exact ⟨s, hs, hentries, hcalled, exec_account restless 2 restlessRun [] hs⟩

end TrafficWatch.Stream.Registry
