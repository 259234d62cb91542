import TrafficWatch.About
import TrafficWatch.Commands.Result
import TrafficWatch.Control.Client
import TrafficWatch.Render
import TrafficWatch.Tracking.Table

/-!
Commands that ask the server once.
-/

namespace TrafficWatch.Remote

open Control Tracking

variable (c : Config) (exchange : Exchange)

def close (id : String) : CommandResult :=
  .ofControl (Control.close c.endpoint exchange id) fun () =>
    "✅ Close requested for connection " ++ id ++ "\n"

def closeAll : CommandResult :=
  .ofControl (Control.closeAll c.endpoint exchange) fun () =>
    "✅ Close requested for all connections\n"

/-- A snapshot as the table that it alone gives. -/
def snapshotTable (now : Time.Instant) (s : Wire.Snapshot) : String :=
  let (table, outcome) := Table.empty.apply s now
  let skipped := outcome.skipped.length
  "Upload total: " ++ Render.traffic table.totals.upload.toFloat ++ " | Download total: " ++
    Render.traffic table.totals.download.toFloat ++ " | Connections: " ++
    toString table.rows.length ++ "\n" ++
    (if skipped = 0 then "" else "Skipped " ++ toString skipped ++ " records without an ID\n") ++
    "\n" ++ Render.rowsTable table.rows now

def snapshot (json : Bool) (now : Time.Instant) : CommandResult :=
  .ofControl (Control.connections c.endpoint exchange) fun s =>
    if json then s.json.prettyText ++ "\n" else snapshotTable now s

/-- The version of the monitor is printed even if the server does not answer. -/
def version (built : String) : CommandResult :=
  match Control.version c.endpoint exchange with
  | .ok v => { output := About.report built v }
  | .error (.client e) => .failed (.control (.client e))
  | .error e => { output := About.report built none, result := .error (.control e) }

end TrafficWatch.Remote
