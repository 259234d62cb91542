/-!
Programs that make calls and go on from the replies. `W` is state of the program's own.
-/

namespace TrafficWatch.Stream

inductive Script (C R W : Type) where
  | done
  | look (next : W → Script C R W)
  | note (change : W → W) (next : Script C R W)
  | call (c : C) (next : R → Script C R W)

namespace Script

variable {C R W : Type}

/-- A single call, whatever the reply. -/
def just (c : C) : Script C R W := .call c fun _ => .done

def andThen : Script C R W → Script C R W → Script C R W
  | .done, s => s
  | .look k, s => .look fun w => (k w).andThen s
  | .note f k, s => .note f (k.andThen s)
  | .call c k, s => .call c fun r => (k r).andThen s

/-- Runs a script over a state that holds `W`. A call may fail to end. -/
def exec {S : Type} (own : S → W) (change : (W → W) → S → S) (perform : C → S → Option (S × R)) :
    Script C R W → S → Option S
  | .done, s => some s
  | .look k, s => exec own change perform (k (own s)) s
  | .note f k, s => exec own change perform k (change f s)
  | .call c k, s => do
    let (s, r) ← perform c s
    exec own change perform (k r) s

end Script

end TrafficWatch.Stream
