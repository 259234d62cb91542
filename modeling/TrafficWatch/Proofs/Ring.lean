import Mathlib.Data.List.DropRight
import TrafficWatch.Ring

/-!
A ring against the list of all that has been pushed: whatever is done to it, it holds the last
entries of that list, as many as fit, and it never reaches for a slot that is not there.
-/

namespace TrafficWatch.Ring

variable {α : Type} {r : Ring α} {vs : List α} {c : Nat} {a : α}

/-! The operations as they are carried out, with no result where a slot is not there, a cut lies
behind the last slot, or a remainder is taken by zero. -/

def store? (slots : Array α) (i : Nat) (a : α) : Option (Array α) :=
  if i < slots.size then some (slots.setIfInBounds i a) else none

def rem? (n m : Nat) : Option Nat := if m = 0 then none else some (n % m)

def push? (r : Ring α) (a : α) : Option (Ring α) :=
  if r.capacity = 0 then some r
  else do
    let slots ← if r.slots.size < r.capacity then some (r.slots.push a) else store? r.slots r.next a
    let next ← rem? (r.next + 1) r.capacity
    some { r with slots, next }

def history? (r : Ring α) : Option (List α) :=
  if r.slots.isEmpty then some []
  else if r.slots.size < r.capacity then some r.slots.toList
  else if r.next ≤ r.slots.size then
    some (r.slots.toList.drop r.next ++ r.slots.toList.take r.next)
  else none

def latest? (r : Ring α) : Option (Option α) :=
  if r.slots.isEmpty then some none
  else (rem? (r.next + r.capacity - 1) r.capacity).map (r.slots[·]?)

inductive Op (α : Type) where
  | push (a : α)
  | clear
  /-- What follows is done to a copy, which is the ring itself: rings are values. -/
  | clone

def step (r : Ring α) : Op α → Ring α
  | .push a => r.push a
  | .clear => r.clear
  | .clone => r

def step? (r : Ring α) : Op α → Option (Ring α)
  | .push a => r.push? a
  | .clear => some r.clear
  | .clone => some r

def run (r : Ring α) (ops : List (Op α)) : Ring α := ops.foldl step r

/-- What has been pushed since the last clear, after what had been before. -/
def pushed (vs : List α) : List (Op α) → List α
  | [] => vs
  | .push a :: ops => pushed (vs ++ [a]) ops
  | .clear :: ops => pushed [] ops
  | .clone :: ops => pushed vs ops

/-- Slots are filled one after the other, and then used again in a circle. -/
structure Sound (r : Ring α) : Prop where
  size_le : r.slots.size ≤ r.capacity
  growing : r.slots.size < r.capacity → r.next = r.slots.size
  next_lt : 0 < r.capacity → r.next < r.capacity
  next_zero : r.capacity = 0 → r.next = 0

theorem sound_empty (c : Nat) : (empty c : Ring α).Sound := by
  constructor <;> simp [empty]

theorem sound_clear (r : Ring α) : r.clear.Sound := by
  constructor <;> simp [Ring.clear]

theorem push_of_room (hroom : r.slots.size < r.capacity) :
    r.push a = { r with slots := r.slots.push a, next := (r.next + 1) % r.capacity } := by
  rw [push, if_neg (by omega), if_pos hroom]

theorem push_of_full (hpos : 0 < r.capacity) (hfull : ¬ r.slots.size < r.capacity) :
    r.push a =
      { r with slots := r.slots.setIfInBounds r.next a, next := (r.next + 1) % r.capacity } := by
  rw [push, if_neg (by omega), if_neg hfull]

theorem Sound.push (h : r.Sound) (a : α) : (r.push a).Sound := by
  by_cases hzero : r.capacity = 0
  · rwa [push_zero r a hzero]
  have hpos : 0 < r.capacity := Nat.pos_of_ne_zero hzero
  have hlt : (r.next + 1) % r.capacity < r.capacity := Nat.mod_lt _ hpos
  by_cases hroom : r.slots.size < r.capacity
  · rw [push_of_room hroom]
    refine ⟨?_, fun hmore => ?_, fun _ => hlt, fun hc => absurd hc hzero⟩
    · rwa [Array.size_push]
    · dsimp only at hmore ⊢
      rw [Array.size_push] at hmore ⊢
      rw [h.growing hroom, Nat.mod_eq_of_lt hmore]
  · rw [push_of_full hpos hroom]
    refine ⟨?_, fun hmore => ?_, fun _ => hlt, fun hc => absurd hc hzero⟩
    · rw [Array.size_setIfInBounds]
      exact h.size_le
    · exact absurd (by simpa using hmore) hroom

theorem length_history (h : r.Sound) : r.history.length = r.slots.size := by
  unfold history
  split
  · exact Array.length_toList
  · next hfull =>
    have hnext : r.next ≤ r.slots.size := by
      by_cases hzero : r.capacity = 0
      · simp [h.next_zero hzero]
      · have := h.next_lt (Nat.pos_of_ne_zero hzero)
        omega
    rw [List.length_append, List.length_drop, List.length_take, Array.length_toList]
    omega

/-- In a full ring the new entry stands in for the oldest. -/
theorem history_push_of_full (h : r.Sound) (hpos : 0 < r.capacity)
    (hfull : r.slots.size = r.capacity) : (r.push a).history = r.history.tail ++ [a] := by
  have hnext : r.next < r.slots.toList.length := by
    rw [Array.length_toList, hfull]
    exact h.next_lt hpos
  obtain ⟨before, old, after, hslots, hlength⟩ :
      ∃ before old after, r.slots.toList = before ++ old :: after ∧ before.length = r.next := by
    refine ⟨r.slots.toList.take r.next, r.slots.toList[r.next], r.slots.toList.drop (r.next + 1),
      ?_, List.length_take_of_le (Nat.le_of_lt hnext)⟩
    rw [List.getElem_cons_drop, List.take_append_drop]
  have hold : r.history = old :: after ++ before := by
    rw [history, if_neg (by omega), hslots, ← hlength, List.drop_left, List.take_left]
  have hset : (r.slots.setIfInBounds r.next a).toList = before ++ a :: after := by
    rw [Array.toList_setIfInBounds, hslots, ← hlength, List.set_append_right _ _ (Nat.le_refl _),
      Nat.sub_self, List.set_cons_zero]
  have hsize : before.length + (after.length + 1) = r.capacity := by
    rw [← hfull, ← Array.length_toList, hslots, List.length_append, List.length_cons]
  rw [hold, push_of_full hpos (by omega), history,
    if_neg (by simpa using Nat.not_lt.mpr (Nat.le_of_eq hfull.symm))]
  dsimp only
  rw [hset, ← hlength, List.cons_append, List.tail_cons]
  cases after with
  | nil =>
    -- the circle closes: the next slot is the first one
    have hround : (before.length + 1) % r.capacity = 0 := by
      rw [← hsize, List.length_nil, Nat.zero_add, Nat.mod_self]
    rw [hround, List.drop_zero, List.take_zero, List.append_nil, List.nil_append]
  | cons next after =>
    have hround : (before.length + 1) % r.capacity = before.length + 1 :=
      Nat.mod_eq_of_lt (by rw [List.length_cons] at hsize; omega)
    have hcut : before ++ a :: next :: after = (before ++ [a]) ++ next :: after := by simp
    rw [hround, hcut, List.drop_left' (by simp), List.take_left' (by simp), ← List.append_assoc]

theorem history_push_of_room (h : r.Sound) (hroom : r.slots.size < r.capacity) :
    (r.push a).history = r.history ++ [a] := by
  rw [push_of_room hroom, history, history, if_pos hroom]
  dsimp only
  rw [Array.size_push, Array.toList_push, h.growing hroom]
  split
  · rfl
  · have hsize : r.slots.size + 1 = r.capacity := by omega
    rw [hsize, Nat.mod_self, List.drop_zero, List.take_zero, List.append_nil]

theorem history_push (h : r.Sound) (a : α) :
    (r.push a).history = (r.history ++ [a]).rtake r.capacity := by
  have hlength := length_history h
  by_cases hzero : r.capacity = 0
  · have hnil : r.history = [] := List.length_eq_zero_iff.mp (by have := h.size_le; omega)
    rw [push_zero r a hzero, hzero, hnil, List.rtake_zero]
  by_cases hroom : r.slots.size < r.capacity
  · rw [history_push_of_room h hroom, List.rtake, List.length_append, hlength, List.length_singleton,
      Nat.sub_eq_zero_of_le (by omega), List.drop_zero]
  · have hfull : r.slots.size = r.capacity := Nat.le_antisymm h.size_le (Nat.le_of_not_lt hroom)
    have hne : r.history ≠ [] := List.ne_nil_of_length_pos (by omega)
    rw [history_push_of_full h (by omega) hfull, List.rtake, List.length_append, hlength, hfull,
      List.length_singleton, Nat.add_sub_cancel_left, List.drop_one, List.tail_append_of_ne_nil hne]

theorem rtake_append_rtake (c : Nat) (vs ws : List α) :
    (vs.rtake c ++ ws).rtake c = (vs ++ ws).rtake c := by
  rw [List.rtake, List.rtake, List.rtake, List.length_append, List.length_append, List.length_drop]
  by_cases hlong : c ≤ vs.length
  · rw [List.drop_append, List.drop_append, List.drop_drop, List.length_drop]
    congr 2 <;> omega
  · rw [Nat.sub_eq_zero_of_le (Nat.le_of_not_le hlong), List.drop_zero, Nat.sub_zero]

/-- A ring holds the last of the values, as many as fit. -/
structure Holds (c : Nat) (r : Ring α) (vs : List α) : Prop where
  sound : r.Sound
  capacity : r.capacity = c
  history : r.history = vs.rtake c

theorem holds_empty (c : Nat) : Holds c (empty c : Ring α) [] :=
  ⟨sound_empty c, rfl, by rw [history_empty, List.rtake_nil]⟩

theorem Holds.push (h : Holds c r vs) (a : α) : Holds c (r.push a) (vs ++ [a]) where
  sound := h.sound.push a
  capacity := (push_capacity r a).trans h.capacity
  history := by rw [history_push h.sound, h.history, h.capacity, rtake_append_rtake]

theorem Holds.clear (h : Holds c r vs) : Holds c r.clear [] where
  sound := sound_clear r
  capacity := h.capacity
  history := by
    have hnil : r.clear.history = [] := List.length_eq_zero_iff.mp (length_history (sound_clear r))
    rw [hnil, List.rtake_nil]

theorem Holds.run (h : Holds c r vs) (ops : List (Op α)) : Holds c (r.run ops) (pushed vs ops) := by
  induction ops generalizing r vs with
  | nil => exact h
  | cons op ops ih =>
    cases op with
    | push a => exact ih (h.push a)
    | clear => exact ih h.clear
    | clone => exact ih h

theorem Holds.length (h : Holds c r vs) : r.length = min c vs.length := by
  have hlength := length_history h.sound
  rw [h.history, List.rtake, List.length_drop] at hlength
  rw [Ring.length]
  omega

theorem isEmpty_iff (r : Ring α) : r.isEmpty = true ↔ r.length = 0 := by
  rw [isEmpty, length, Array.isEmpty_iff_size_eq_zero]

/-- The last slot that was written holds the last entry. -/
theorem latest_eq_getLast? (h : r.Sound) : r.latest = r.history.getLast? := by
  have hlength := length_history h
  by_cases hempty : r.slots.size = 0
  · have hnil : r.history = [] := List.length_eq_zero_iff.mp (hlength.trans hempty)
    simp [latest, hnil, hempty]
  have hpos : 0 < r.capacity := by have := h.size_le; omega
  have hnext := h.next_lt hpos
  have hlatest : r.latest = r.slots.toList[(r.next + r.capacity - 1) % r.capacity]? := by
    rw [latest, if_neg (by simpa [Array.isEmpty_iff_size_eq_zero] using hempty), Array.getElem?_toList]
  rw [hlatest, List.getLast?_eq_getElem?, hlength, history]
  split
  · next hroom =>
    have hindex : (r.next + r.capacity - 1) % r.capacity = r.slots.size - 1 := by
      rw [h.growing hroom, Nat.add_comm, Nat.add_sub_assoc (by omega), Nat.add_mod_left,
        Nat.mod_eq_of_lt (by omega)]
    rw [hindex]
  · next hfull =>
    have hsize : r.slots.size = r.capacity := Nat.le_antisymm h.size_le (Nat.le_of_not_lt hfull)
    cases hn : r.next with
    | zero =>
      rw [Nat.zero_add, Nat.mod_eq_of_lt (by omega), List.drop_zero, List.take_zero, List.append_nil,
        hsize]
    | succ n =>
      have hindex : (n + 1 + r.capacity - 1) % r.capacity = n := by
        rw [Nat.add_right_comm, Nat.add_sub_cancel, Nat.add_mod_right, Nat.mod_eq_of_lt (by omega)]
      rw [hindex, List.getElem?_append_right (by simp; omega), List.length_drop, Array.length_toList,
        List.getElem?_take_of_lt (by omega)]
      congr 1
      omega

theorem Holds.latest (h : Holds c r vs) : r.latest = if c = 0 then none else vs.getLast? := by
  rw [latest_eq_getLast? h.sound, h.history]
  split
  · next hzero => rw [hzero, List.rtake_zero, List.getLast?_nil]
  · next hzero =>
    rw [List.rtake, List.getLast?_drop]
    split
    · next hshort =>
      have hnil : vs = [] := List.length_eq_zero_iff.mp (by omega)
      rw [hnil, List.getLast?_nil]
    · rfl

/-! Nothing is reached for that is not there. -/

theorem push?_eq_some (h : r.Sound) (a : α) : r.push? a = some (r.push a) := by
  unfold push? Ring.push
  by_cases hzero : r.capacity = 0
  · rw [if_pos hzero, if_pos hzero]
  rw [if_neg hzero, if_neg hzero]
  by_cases hroom : r.slots.size < r.capacity
  · simp [hroom, rem?, hzero]
  · have hnext : r.next < r.slots.size := by
      have := h.next_lt (Nat.pos_of_ne_zero hzero)
      have := h.size_le
      omega
    simp [hroom, rem?, store?, hzero, hnext]

theorem step?_eq_some (h : r.Sound) (op : Op α) : r.step? op = some (r.step op) := by
  cases op with
  | push a => exact push?_eq_some h a
  | clear | clone => rfl

theorem history?_eq_some (h : r.Sound) : r.history? = some r.history := by
  unfold history? history
  by_cases hempty : r.slots.size = 0
  · have hnil : r.slots = #[] := Array.eq_empty_of_size_eq_zero hempty
    simp [hnil]
  rw [if_neg (by simpa [Array.isEmpty_iff_size_eq_zero] using hempty)]
  split
  · rfl
  · have hnext : r.next ≤ r.slots.size := by
      have := h.next_lt (by have := h.size_le; omega)
      omega
    rw [if_pos hnext]

theorem latest?_eq_some (h : r.Sound) : r.latest? = some r.latest := by
  unfold latest? Ring.latest
  split
  · rfl
  · next hne =>
    have hzero : r.capacity ≠ 0 := fun hzero => hne (by
      rw [Array.isEmpty_iff_size_eq_zero]
      have := h.size_le
      omega)
    rw [rem?, if_neg hzero, Option.map_some]

theorem Sound.next_add_capacity_le (h : r.Sound) : r.next + r.capacity ≤ 2 * r.capacity := by
  by_cases hzero : r.capacity = 0
  · have := h.next_zero hzero
    omega
  · have := h.next_lt (Nat.pos_of_ne_zero hzero)
    omega

/-- Of any capacity, and whatever is pushed, cleared and cloned: a ring is the list of what has been
pushed since the last clear, cut to its last entries. Each operation finds the slots it reaches for,
takes remainders by its capacity alone, which then is not zero, and computes with numbers of at most
twice the capacity. -/
theorem run_refines_pushed (c : Nat) (ops : List (Op α)) :
    let r := (empty c).run ops
    let vs := pushed [] ops
    r.history = vs.rtake c ∧ r.length = min c vs.length ∧ (r.isEmpty = true ↔ r.length = 0) ∧
      r.latest = (if c = 0 then none else vs.getLast?) ∧ r.capacity = c ∧
      (∀ op, r.step? op = some (r.step op)) ∧ r.history? = some r.history ∧
      r.latest? = some r.latest ∧ r.next + r.capacity ≤ 2 * c := by
  intro r vs
  have h : Holds c r vs := (holds_empty c).run ops
  have hsum := h.sound.next_add_capacity_le
  rw [h.capacity] at hsum ⊢
  exact ⟨h.history, h.length, isEmpty_iff r, h.latest, rfl, step?_eq_some h.sound,
    history?_eq_some h.sound, latest?_eq_some h.sound, hsum⟩

end TrafficWatch.Ring
