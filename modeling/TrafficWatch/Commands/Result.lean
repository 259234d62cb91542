import TrafficWatch.Config.Check
import TrafficWatch.Config.Load
import TrafficWatch.Control.Answer
import TrafficWatch.Settings

/-!
What a command leaves behind.
-/

namespace TrafficWatch

inductive CommandError where
  | settings (error : SettingsError)
  | disk (error : Files.DiskError)
  | control (error : Control.ControlError)
  | address (error : Url.UrlError)
  /-- The local HTTP server cannot listen there. -/
  | bindAddress (address : String)
deriving DecidableEq, Repr

def CommandError.message : CommandError → String
  | .settings e => e.message
  | .disk e => e.message
  | .control e => e.message
  | .address e => e.message
  | .bindAddress _ => "invalid IP address syntax"

structure CommandResult where
  /-- What has been printed. -/
  output : String := ""
  result : Except CommandError Unit := .ok ()

namespace CommandResult

def failed (e : CommandError) : CommandResult := { result := .error e }

/-- Prints what comes of an exchange with the server, if it succeeds. -/
def ofControl {α : Type} (r : Except Control.ControlError α) (print : α → String) : CommandResult :=
  match r with
  | .ok a => { output := print a }
  | .error e => failed (.control e)

end CommandResult

end TrafficWatch
