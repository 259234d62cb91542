/-!
A buffer of fixed capacity. Once it is full, a new entry takes the place of the oldest.
-/

namespace TrafficWatch

/-- The next entry goes to the slot `next`. -/
structure Ring (α : Type) where
  capacity : Nat
  slots : Array α
  next : Nat

namespace Ring

variable {α : Type}

def empty (capacity : Nat) : Ring α := ⟨capacity, #[], 0⟩

/-- With a capacity of zero nothing is kept. -/
def push (r : Ring α) (a : α) : Ring α :=
  if r.capacity = 0 then r
  else
    { r with
      slots := if r.slots.size < r.capacity then r.slots.push a else r.slots.setIfInBounds r.next a
      next := (r.next + 1) % r.capacity }

/-- The entries, oldest first. -/
def history (r : Ring α) : List α :=
  if r.slots.size < r.capacity then r.slots.toList
  else r.slots.toList.drop r.next ++ r.slots.toList.take r.next

def latest (r : Ring α) : Option α :=
  if r.slots.isEmpty then none else r.slots[(r.next + r.capacity - 1) % r.capacity]?

def clear (r : Ring α) : Ring α := { r with slots := #[], next := 0 }

def length (r : Ring α) : Nat := r.slots.size

def isEmpty (r : Ring α) : Bool := r.slots.isEmpty

theorem history_empty (capacity : Nat) : (empty capacity : Ring α).history = [] := by
  simp [history, empty]

theorem push_capacity (r : Ring α) (a : α) : (r.push a).capacity = r.capacity := by
  unfold push; split <;> rfl

theorem push_zero (r : Ring α) (a : α) (h : r.capacity = 0) : r.push a = r := by simp [push, h]

end Ring

end TrafficWatch
