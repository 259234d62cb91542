import TrafficWatch.Proofs.Stream.Watching
import TrafficWatch.Stream.Play

/-!
The trace of events that a script of the transport gives by itself: what each attempt to open it
contributes, and what each channel does up to the item that closes it.
-/

namespace TrafficWatch.Stream

variable {M H P : Type}

/-- What an open of the transport has come to. -/
inductive Attempt where
  | refused (e : StreamError)
  /-- The items read from a channel, after which it may have ended. -/
  | session (items : List Item) (ended : Bool)

namespace Attempt

def opened : Attempt → Bool
  | .refused _ => false
  | .session _ _ => true

/-- What has come of a plan of the transport once that is over. -/
def ofPlan : Option Session.Plan → Attempt
  | none => .refused (.transport "connection refused")
  | some (.fail m) => .refused (.transport m)
  | some (.channel c) => .session c.items (! c.held)

/-- All attempts at the first plans of a script. -/
def past (script : List Session.Plan) (n : Nat) : List Attempt :=
  (List.range n).map fun i => ofPlan script[i]?

theorem past_succ (script : List Session.Plan) (n : Nat) :
    past script (n + 1) = past script n ++ [ofPlan script[n]?] := by
  simp [past, List.range_succ]

end Attempt

namespace Behaviour

variable (b : Behaviour M H P)

/-- Nothing counts after an item that closes the channel. -/
def sessionEvents (ended : Bool) : List Item → List (Event M)
  | [] => if ended then [.close] else []
  | i :: is => b.heardItem i ++ if i.closes then [] else sessionEvents ended is

/-- The events of one attempt, which may come after another that was open. -/
def attemptEvents (again : Bool) : Attempt → List (Event M)
  | .refused e => [.error e]
  | .session items ended => (if again then [.reconnect] else []) ++ b.sessionEvents ended items

def eventTrace (again : Bool) : List Attempt → List (Event M)
  | [] => []
  | a :: as => b.attemptEvents again a ++ eventTrace (again || a.opened) as

theorem sessionEvents_append (ended : Bool) {done : List Item} (is : List Item)
    (hd : ∀ i ∈ done, i.closes = false) :
    b.sessionEvents ended (done ++ is) =
      b.sessionEvents false done ++ b.sessionEvents ended is := by
  induction done with
  | nil => rfl
  | cons i done ih =>
    have hi : i.closes = false := hd i List.mem_cons_self
    have ht := ih fun j hj => hd j (List.mem_cons_of_mem _ hj)
    simp only [List.cons_append, sessionEvents, hi, Bool.false_eq_true, if_false, ht,
      List.append_assoc]

theorem sessionEvents_closing (ended : Bool) {done : List Item} {i : Item} (rest : List Item)
    (hd : ∀ j ∈ done, j.closes = false) (hi : i.closes = true) :
    b.sessionEvents ended (done ++ i :: rest) = b.sessionEvents false done ++ b.heardItem i := by
  rw [b.sessionEvents_append ended (i :: rest) hd, sessionEvents, if_pos hi, List.append_nil]

theorem sessionEvents_concat {done : List Item} {i : Item}
    (hd : ∀ j ∈ done, j.closes = false) (hi : i.closes = false) :
    b.sessionEvents false (done ++ [i]) = b.sessionEvents false done ++ b.heardItem i := by
  rw [b.sessionEvents_append false [i] hd]
  simp [sessionEvents, hi]

theorem sessionEvents_after (ended : Bool) (items : List Item) {i : Item} (rest : List Item)
    (hi : i.closes = true) :
    b.sessionEvents ended (items ++ i :: rest) = b.sessionEvents ended (items ++ [i]) := by
  induction items with
  | nil => simp only [List.nil_append, sessionEvents, hi, if_true]
  | cons j items ih => simp only [List.cons_append, sessionEvents, ih]

theorem eventTrace_concat (again : Bool) (as : List Attempt) (a : Attempt) :
    b.eventTrace again (as ++ [a]) =
      b.eventTrace again as ++ b.attemptEvents (again || as.any Attempt.opened) a := by
  induction as generalizing again with
  | nil => simp [eventTrace]
  | cons c as ih =>
    simp only [List.cons_append, eventTrace, ih, List.any_cons, List.append_assoc, Bool.or_assoc]

theorem eventTrace_extend (again : Bool) (as : List Attempt) {items items' : List Item}
    {ended ended' : Bool} {es : List (Event M)}
    (h : b.sessionEvents ended' items' = b.sessionEvents ended items ++ es) :
    b.eventTrace again (as ++ [.session items' ended']) =
      b.eventTrace again (as ++ [.session items ended]) ++ es := by
  simp only [eventTrace_concat, attemptEvents, h, List.append_assoc]

end Behaviour

end TrafficWatch.Stream
