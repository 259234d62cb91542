import TrafficWatch.CommandLine.Arguments
import TrafficWatch.Commands.Result

/-!
Commands that only touch files: showing and changing preferences, and making configuration files.
-/

namespace TrafficWatch

open Files

namespace SettingsChange

/-- Without a change the preferences are only shown. -/
def run (change : SettingsChange) (d : Disk) (path : String) : Disk × CommandResult :=
  match SettingsStore.load d path with
  | .error e => (d, .failed (.settings e))
  | .ok store =>
    if change.isEmpty then (d, { output := store.current.report store.path })
    else
      let updated := store.update d change.apply
      (updated.disk, match updated.result with
        | .error e => .failed (.settings e)
        | .ok new => { output := "✅ Settings updated\n" ++ new.report store.path })

end SettingsChange

namespace ConfigRequest

/-- The file is named for the format unless another name is given. -/
def path (r : ConfigRequest) : String := r.output.getD ("lightsocks-monitor." ++ r.format.name)

/-- A hyphen stands for the output of the command. -/
def run (r : ConfigRequest) (d : Disk) : Disk × CommandResult :=
  let content := Config.template r.format r.commented
  if r.path == "-" then (d, { output := content })
  else match d.write r.path content with
    | .error e => (d, .failed (.disk e))
    | .ok d => (d, { output := "✅ Configuration written to: " ++ r.path ++ "\n" })

end ConfigRequest

end TrafficWatch
