import TrafficWatch.Commands.Local
import TrafficWatch.Proofs.Preferences

/-!
Preferences changed by one run of the command after the other. Each run loads the file that the
runs before it left; what the file says goes together with what the changes come to in memory.
-/

namespace TrafficWatch

open Files Json

/-! What a settings file says. -/

namespace SettingsStore

/-- The preferences that a file stands for. -/
inductive Holds (d : Disk) (path : String) : Settings → Prop where
  | missing (file : d.readText path = .error .notFound) : Holds d path {}
  | blank {content : String} (file : d.readText path = .ok content)
    (blank : (Text.trim content).isEmpty = true) : Holds d path {}
  | decoded {content : String} {s : Settings} (file : d.readText path = .ok content)
    (written : (Text.trim content).isEmpty = false) (decoded : decode Settings.read content = .ok s) :
    Holds d path s

variable {d : Disk} {path : String} {s : Settings}

end SettingsStore

namespace SettingsChange

/-- What a run has to write can be written. -/
def Persists (c : SettingsChange) (d : Disk) (path : String) : Prop :=
  ∀ store, SettingsStore.load d path = .ok store →
    ∃ d', SettingsStore.persist d store.path (c.apply store.current) = (d', .ok ())

instance (c : SettingsChange) (d : Disk) (path : String) : Decidable (c.Persists d path) :=
  match hload : SettingsStore.load d path with
  | .error _ => .isTrue fun _ h => nomatch hload.symm.trans h
  | .ok store =>
    match hsaved : SettingsStore.persist d store.path (c.apply store.current) with
    | (d', .ok ()) => .isTrue fun _ h => Except.ok.inj (hload.symm.trans h) ▸ ⟨d', hsaved⟩
    | (_, .error _) => .isFalse fun h => by
      obtain ⟨d', hd'⟩ := h store hload
      cases hsaved.symm.trans hd'

/-- What a run prints. -/
def printed (c : SettingsChange) (path : String) (s : Settings) : String :=
  (if c.isEmpty then "" else "✅ Settings updated\n") ++ s.report path

variable {d : Disk} {path : String} {s : Settings} {c : SettingsChange}

def settingsFile (content : String) : Disk :=
  Disk.empty.put ["settings.json"] (.file content.toUTF8)

def turns : List SettingsChange :=
  [{ toggleKeepClosed := true, language := some "" }, {},
    { toggleKeepClosed := true, logLevel := some "debug" }]

end SettingsChange

end TrafficWatch
