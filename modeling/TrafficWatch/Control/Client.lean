import TrafficWatch.Control.Answer

/-!
Requests and their answers together, over any way of exchanging one for the other.
-/

namespace TrafficWatch.Control

abbrev Exchange := Request → Answer

/-- Sends a request; without a client there is none to send. -/
def send (e : Endpoint) (exchange : Exchange) (o : Operation) : Except ControlError Answer := do
  let c ← (Client.create e).mapError .client
  pure (exchange (c.request o))

variable (e : Endpoint) (exchange : Exchange)

def close (id : String) : Except ControlError Unit := do
  let _ ← (← send e exchange (.close id)).body

def closeAll : Except ControlError Unit := do
  let _ ← (← send e exchange .closeAll).body

def connections : Except ControlError Wire.Snapshot := do
  (← send e exchange .connections).decode Wire.Snapshot.read

def version : Except ControlError Wire.Version := do
  (← send e exchange .version).decode Wire.Version.read

end TrafficWatch.Control
