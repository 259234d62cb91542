import TrafficWatch.Files.Disk
import TrafficWatch.Json.Decode
import TrafficWatch.Json.Value
import TrafficWatch.Text.Blank

/-!
The user's preferences, and the file that keeps them. A change is written to a temporary file
beside the real one, which is then moved over it.
-/

namespace TrafficWatch

open Json Files

structure Settings where
  /-- Closed connections stay in the table until they are cleared. -/
  keepClosed : Bool := true
  /-- Nothing means the language of the system. -/
  language : Option String := none
  /-- The level asked for on the log stream. -/
  logLevel : String := "info"
deriving DecidableEq, Repr

namespace Settings

def schema : Schema Doc DecodeError Settings where
  name := "Settings"
  blank := {}
  fields := [
    .make .defaulted ["keep_closed_connections", "keepClosedConnections", "keep_closed"] Doc.asFlag
      fun v s => { s with keepClosed := v },
    .make .defaulted ["language"] (Doc.asOption Doc.asText) fun v s => { s with language := v },
    .make .defaulted ["log_level", "logLevel"] Doc.asText fun v s => { s with logLevel := v }]

def read : Doc → Except DecodeError Settings := Doc.asRecord schema

def json (s : Settings) : Value := .object [
  ("keep_closed_connections", .bool s.keepClosed), ("language", .option .text s.language),
  ("log_level", .text s.logLevel)]

/-- The content of a settings file; a blank one stands for the defaults. -/
def ofText (content : String) : Except DecodeError Settings :=
  if (Text.trim content).isEmpty then .ok {} else decode read content

end Settings

inductive SettingsError where
  | disk (path : String) (error : DiskError)
  | parse (path : String) (error : DecodeError)
deriving DecidableEq, Repr

def SettingsError.message : SettingsError → String
  | .disk path e => "settings I/O error on " ++ path ++ ": " ++ e.message
  | .parse path e => "settings file " ++ path ++ " is not valid JSON: " ++ e.message

/-- Preferences in memory, with the path of their file if they have one. -/
structure SettingsStore where
  path : Option String
  current : Settings
deriving DecidableEq, Repr

namespace SettingsStore

def inMemory (s : Settings) : SettingsStore := ⟨none, s⟩

/-- A missing file yields the defaults. -/
def load (d : Disk) (path : String) : Except SettingsError SettingsStore :=
  match d.readText path with
  | .error .notFound => .ok ⟨path, {}⟩
  | .error e => .error (.disk path e)
  | .ok content =>
    match Settings.ofText content with
    | .ok s => .ok ⟨path, s⟩
    | .error e => .error (.parse path e)

/-- A file that cannot be read yields the defaults, too, and is overwritten by the next change. -/
def loadOrDefault (d : Disk) (path : String) : SettingsStore :=
  match load d path with
  | .ok s => s
  | .error _ => ⟨path, {}⟩

def temporaryPath (path : String) : String :=
  ((Path.ofText path).withExtension "json.tmp").text

/-- Writes a content to a path by way of the temporary file. -/
def replaceContent (d : Disk) (path content : String) : Disk × Except DiskError Unit :=
  let p := Path.ofText path
  let (d, made) := d.ensureTree p.absolute p.components.reverse.tail
  match made with
  | .error e => (d, .error e)
  | .ok () =>
    match d.write (temporaryPath path) content with
    | .error e => (d, .error e)
    | .ok d =>
      match d.moveFile (temporaryPath path) path with
      | .error e => (d, .error e)
      | .ok d => (d, .ok ())

def persist (d : Disk) (path : Option String) (s : Settings) : Disk × Except SettingsError Unit :=
  match path with
  | none => (d, .ok ())
  | some p =>
    let (d, written) := replaceContent d p s.json.prettyText
    (d, written.mapError (.disk p))

/-- What an update leaves behind. -/
structure Updated where
  disk : Disk
  store : SettingsStore
  result : Except SettingsError Settings

/-- The settings in memory change even if they cannot be written. -/
def update (d : Disk) (s : SettingsStore) (change : Settings → Settings) : Updated :=
  let new := change s.current
  let (disk, written) := persist d s.path new
  { disk, store := { s with current := new }, result := written.map fun _ => new }

end SettingsStore

/-- Changes asked for on the command line. -/
structure SettingsChange where
  keepClosed : Option Bool := none
  toggleKeepClosed : Bool := false
  language : Option String := none
  logLevel : Option String := none
deriving DecidableEq, Repr

namespace SettingsChange

def isEmpty (c : SettingsChange) : Bool := c == {}

/-- An empty language goes back to that of the system. -/
def apply (c : SettingsChange) (s : Settings) : Settings :=
  let keep := c.keepClosed.getD s.keepClosed
  { keepClosed := if c.toggleKeepClosed then ! keep else keep
    language := match c.language with
      | none => s.language
      | some l => if l.isEmpty then none else some l
    logLevel := c.logLevel.getD s.logLevel }

end SettingsChange

namespace Settings

def report (s : Settings) (path : Option String) : String :=
  "Settings file: " ++ path.getD "(in memory)" ++ "\n" ++
  "  keep_closed_connections: " ++ toString s.keepClosed ++ "\n" ++
  "  language:                " ++ s.language.getD "(system default)" ++ "\n" ++
  "  log_level:               " ++ s.logLevel ++ "\n"

end Settings

end TrafficWatch
