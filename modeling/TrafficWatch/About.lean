import TrafficWatch.Wire.Messages

/-!
What the monitor says about itself and about the server.
-/

namespace TrafficWatch.About

def name : String := "lightsocks-monitor"

def version : String := "0.1.0"

def title : String := name ++ " " ++ version

def serverLines (v : Wire.Version) : List String := [
  v.name ++ " " ++ v.version,
  "  built: " ++ v.buildTime,
  "  go:    " ++ v.toolchain.version ++ " " ++ v.toolchain.os ++ "/" ++ v.toolchain.arch,
  "  git:   " ++ v.revision.url ++ " (" ++ v.revision.branch ++ " @ " ++ v.revision.commit ++ ")"]

/-- Versions of both sides; `built` is when the monitor was built. -/
def report (built : String) (server : Option Wire.Version) : String :=
  String.join (([title, "  built: " ++ built] ++
    match server with
    | some v => serverLines v
    | none => ["server: unavailable"]).map (· ++ "\n"))

end TrafficWatch.About
