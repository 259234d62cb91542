import TrafficWatch.Config.Basic
import TrafficWatch.Proofs.Json.RoundTrip
import TrafficWatch.Settings
import TrafficWatch.Wire.Codec

/-!
What the program writes as JSON and reads again: messages, preferences, endpoints, configurations.
-/

namespace TrafficWatch

open Json

theorem Json.Doc.valid_of_asInstant {d : Doc} {t : Time.Instant} (h : d.asInstant = .ok t) :
    t.Valid := by
  obtain ⟨s, -, h⟩ := bind_eq_ok.mp h
  split at h
  · next hs =>
    cases h
    exact Time.Instant.valid_of_ofText? hs
  · exact nomatch h

namespace Wire

theorem Metadata.readsBack (m : Metadata) : ReadsBack Metadata.read Metadata.json m :=
  .record (by decide)
    (.cons (.orDefault (.text m.network) nofun) <| .cons (.orDefault (.text m.kind) nofun) <|
      .cons (.orDefault (.text m.client) nofun) <| .cons (.orDefault (.text m.source) nofun) <|
        .cons (.orDefault (.text m.target) nofun) .nil)
    rfl

theorem ConnectionRecord.readsBack {r : ConnectionRecord} (h : ∀ t ∈ r.start, t.Valid) :
    ReadsBack ConnectionRecord.read ConnectionRecord.json r :=
  .record (by decide)
    (.cons (.option (fun s _ => .text s) nofun) <|
      .cons (.orDefault (Metadata.readsBack r.metadata) nofun) <|
        .cons (.word "u64" r.counters.upload) <| .cons (.word "u64" r.counters.download) <|
          .cons (.option (fun t ht => .instant (h t ht)) nofun) .nil)
    rfl

/-- Only an instant within the calendar is read as a start. -/
theorem ConnectionRecord.valid_of_read {d : Doc} {r : ConnectionRecord}
    (h : ConnectionRecord.read d = .ok r) : ∀ t ∈ r.start, t.Valid := by
  refine Doc.asRecord_keeps (P := fun r => ∀ t ∈ r.start, Time.Instant.Valid t)
    (fun t ht => absurd ht (Option.not_mem_none t)) ?_ h
  simp only [schema, List.forall_mem_cons, List.not_mem_nil, false_imp_iff, implies_true, and_true]
  refine ⟨?id, ?metadata, ?upload, ?download, ?start⟩
  case start =>
    refine Field.keeps_make fun d o r hread _ t ht => ?_
    exact Doc.valid_of_asInstant (Doc.asOption_eq_ok hread t ht)
  all_goals exact Field.keeps_make fun _ _ _ _ hr => hr

theorem Snapshot.valid_of_read {d : Doc} {s : Snapshot} (h : Snapshot.read d = .ok s) :
    ∀ r ∈ s.connections, ∀ t ∈ r.start, t.Valid := by
  refine Doc.asRecord_keeps
    (P := fun s => ∀ r ∈ s.connections, ∀ t ∈ r.start, Time.Instant.Valid t)
    (fun r hr => absurd hr List.not_mem_nil) ?_ h
  simp only [schema, List.forall_mem_cons, List.not_mem_nil, false_imp_iff, implies_true, and_true]
  refine ⟨?upload, ?download, ?connections⟩
  case connections =>
    refine Field.keeps_make fun d rs _ hread _ r hr => ?_
    obtain ⟨o, ho, rfl⟩ := map_eq_ok.mp hread
    cases o with
    | none => cases hr
    | some rs =>
      obtain ⟨ds, -, hds⟩ := Doc.asList_eq_ok.mp (Doc.asOption_eq_ok ho rs rfl)
      obtain ⟨d, -, hd⟩ := mapM_right hds hr
      exact ConnectionRecord.valid_of_read hd
  all_goals exact Field.keeps_make fun _ _ _ _ hs => hs

theorem Snapshot.readsBack {s : Snapshot} (h : ∀ r ∈ s.connections, ∀ t ∈ r.start, t.Valid) :
    ReadsBack Snapshot.read Snapshot.json s :=
  .record (by decide)
    (.cons (.word "u64" s.totals.upload) <| .cons (.word "u64" s.totals.download) <|
      .cons (.orDefault (.list fun r hr => ConnectionRecord.readsBack (h r hr)) nofun) .nil)
    rfl

theorem LogRecord.readsBack (r : LogRecord) : ReadsBack LogRecord.read LogRecord.json r :=
  .record (by decide) (.cons (.text r.level) <| .cons (.text r.payload) .nil) rfl

theorem Toolchain.readsBack (t : Toolchain) :
    ReadsBack (Doc.asRecord Toolchain.schema) Toolchain.json t :=
  .record (by decide) (.cons (.text t.os) <| .cons (.text t.arch) <| .cons (.text t.version) .nil)
    rfl

theorem Revision.readsBack (r : Revision) :
    ReadsBack (Doc.asRecord Revision.schema) Revision.json r :=
  .record (by decide) (.cons (.text r.url) <| .cons (.text r.branch) <| .cons (.text r.commit) .nil)
    rfl

theorem Version.readsBack (v : Version) : ReadsBack Version.read Version.json v :=
  .record (by decide)
    (.cons (.text v.name) <| .cons (.text v.version) <| .cons (.text v.buildTime) <|
      .cons (Toolchain.readsBack v.toolchain) <| .cons (Revision.readsBack v.revision) .nil)
    rfl

end Wire

theorem Settings.readsBack (s : Settings) : ReadsBack Settings.read Settings.json s :=
  .record (by decide)
    (.cons (.flag s.keepClosed) <| .cons (.option (fun l _ => .text l) nofun) <|
      .cons (.text s.logLevel) .nil)
    rfl

theorem Endpoint.readsBack (e : Endpoint) : ReadsBack Endpoint.read Endpoint.json e :=
  .record (by decide)
    (.cons (.text e.host) <| .cons (.port e.port) <| .cons (.text e.secret) <|
      .cons (.flag e.tls) .nil)
    rfl

theorem Stream.Config.readsBack (c : Stream.Config) :
    ReadsBack (Doc.asRecord (Stream.Config.schema Doc.leaves)) Stream.Config.json c :=
  .record (by decide)
    (.cons (.word "usize" c.bufferLength) <| .cons (.word "u64" c.minRetryMs) <|
      .cons (.word "u64" c.maxRetryMs) .nil)
    rfl

namespace Entry

theorem doc_ne_null {e : Entry} (he : e ≠ .nothing) : e.json.doc ≠ .null := by
  cases e with
  | nothing => exact absurd rfl he
  | natural n =>
    rw [json, Value.nat, Value.doc]
    split <;> simp
  | _ => simp [json, Value.doc]

variable {α : Type}

theorem readsBack {read : Doc → Except DecodeError α} (write : α → Entry)
    (hwrite : ∀ a, write a ≠ .nothing) (h : ∀ a, ReadsBack read (fun a => (write a).json) a)
    (o : Option α) : ReadsBack (Doc.asOption read) (fun o => (Entry.option write o).json) o := by
  have hoption : (Entry.option write o).json = Value.option (fun a => (write a).json) o := by
    cases o <;> rfl
  obtain ⟨hfaultless, hread⟩ := ReadsBack.option (fun a _ => h a)
    (fun a (_ : a ∈ o) => doc_ne_null (hwrite a))
  rw [← hoption] at hfaultless hread
  exact ⟨hfaultless, hread⟩

theorem text_readsBack (o : Option String) :
    ReadsBack (Doc.asOption Doc.asText) (fun o => (Entry.option .text o).json) o :=
  readsBack .text nofun .text o

theorem path_readsBack (o : Option String) :
    ReadsBack (Doc.asOption (Doc.textOf "path string")) (fun o => (Entry.option .text o).json) o :=
  readsBack .text nofun .path o

theorem flag_readsBack (o : Option Bool) :
    ReadsBack (Doc.asOption Doc.asFlag) (fun o => (Entry.option .flag o).json) o :=
  readsBack .flag nofun .flag o

theorem word_readsBack (o : Option UInt64) :
    ReadsBack (Doc.asOption (Doc.leaves.word "u64"))
      (fun o => (Entry.option (fun (n : UInt64) => .natural n.toNat) o).json) o :=
  readsBack (fun n => .natural n.toNat) nofun (.word "u64") o

theorem port_readsBack (o : Option UInt16) :
    ReadsBack (Doc.asOption Doc.leaves.port)
      (fun o => (Entry.option (fun (n : UInt16) => .natural n.toNat) o).json) o :=
  readsBack (fun n => .natural n.toNat) nofun .port o

end Entry

theorem Config.readsBack (c : Config) :
    ReadsBack (Doc.asRecord (Config.schema Doc.leaves)) Config.json c :=
  .record (by decide)
    (.cons (Entry.text_readsBack c.host) <| .cons (Entry.port_readsBack c.port) <|
      .cons (Entry.text_readsBack c.secret) <| .cons (Entry.flag_readsBack c.tls) <|
      .cons (Entry.word_readsBack c.snapshotIntervalMs) <|
      .cons (Entry.word_readsBack c.requestTimeoutSecs) <|
      .cons (Entry.path_readsBack c.settingsFile) <|
      .cons (Entry.word_readsBack c.renderIntervalMs) <|
      .cons (Entry.flag_readsBack c.enableHttp) <| .cons (Entry.text_readsBack c.bind) <|
      .cons (Entry.port_readsBack c.listenPort) <|
      .cons (Stream.Config.readsBack c.stream) .nil)
    rfl

/-- What is both read from JSON and written as JSON. -/
inductive Form where
  | snapshot
  | connection
  | metadata
  | logRecord
  | version
  | settings
  | endpoint
  | streamConfig
  | config

namespace Form

def Content : Form → Type
  | .snapshot => Wire.Snapshot
  | .connection => Wire.ConnectionRecord
  | .metadata => Wire.Metadata
  | .logRecord => Wire.LogRecord
  | .version => Wire.Version
  | .settings => Settings
  | .endpoint => Endpoint
  | .streamConfig => Stream.Config
  | .config => Config

def read : (f : Form) → Doc → Except DecodeError f.Content
  | .snapshot => Wire.Snapshot.read
  | .connection => Wire.ConnectionRecord.read
  | .metadata => Wire.Metadata.read
  | .logRecord => Wire.LogRecord.read
  | .version => Wire.Version.read
  | .settings => Settings.read
  | .endpoint => Endpoint.read
  | .streamConfig => Doc.asRecord (Stream.Config.schema Doc.leaves)
  | .config => Doc.asRecord (Config.schema Doc.leaves)

def json : (f : Form) → f.Content → Value
  | .snapshot => Wire.Snapshot.json
  | .connection => Wire.ConnectionRecord.json
  | .metadata => Wire.Metadata.json
  | .logRecord => Wire.LogRecord.json
  | .version => Wire.Version.json
  | .settings => Settings.json
  | .endpoint => Endpoint.json
  | .streamConfig => Stream.Config.json
  | .config => Config.json

/-- All that a text can say: any content, as long as its instants are within the calendar. -/
def Dated : (f : Form) → f.Content → Prop
  | .snapshot, (s : Wire.Snapshot) => ∀ r ∈ s.connections, ∀ t ∈ r.start, t.Valid
  | .connection, (r : Wire.ConnectionRecord) => ∀ t ∈ r.start, t.Valid
  | _, _ => True

theorem Dated.readsBack {f : Form} {v : f.Content} (h : f.Dated v) : ReadsBack f.read f.json v := by
  cases f with
  | snapshot => exact Wire.Snapshot.readsBack h
  | connection => exact Wire.ConnectionRecord.readsBack h
  | metadata => exact Wire.Metadata.readsBack v
  | logRecord => exact Wire.LogRecord.readsBack v
  | version => exact Wire.Version.readsBack v
  | settings => exact Settings.readsBack v
  | endpoint => exact Endpoint.readsBack v
  | streamConfig => exact Stream.Config.readsBack v
  | config => exact Config.readsBack v

theorem dated_of_read {f : Form} {d : Doc} {v : f.Content} (h : f.read d = .ok v) : f.Dated v := by
  cases f with
  | snapshot => exact Wire.Snapshot.valid_of_read h
  | connection => exact Wire.ConnectionRecord.valid_of_read h
  | _ => trivial

theorem dated_of_decode {f : Form} {s : String} {v : f.Content} (h : decode f.read s = .ok v) :
    f.Dated v :=
  dated_of_read (read_of_decode h).1

theorem decodes_iff_dated {f : Form} {v : f.Content} :
    (∃ s, decode f.read s = .ok v) ↔ f.Dated v :=
  ⟨fun ⟨_, h⟩ => dated_of_decode h, fun h => ⟨_, h.readsBack.roundTrips.1⟩⟩

/-- Whatever is decoded is decoded again from either way of writing it. So writing it is a normal
form, which decoding and writing once more does not change. -/
theorem decoded_round_trips (f : Form) (s : String) (v : f.Content)
    (hdecode : decode f.read s = .ok v) :
    RoundTrips f.read f.json v ∧
      ∀ write, write = Value.compactText ∨ write = Value.prettyText →
        rewritten f.read f.json write s = .ok (write (f.json v)) ∧
          rewritten f.read f.json write (write (f.json v)) = .ok (write (f.json v)) := by
  refine ⟨(dated_of_decode hdecode).readsBack.roundTrips, fun write hwrite => ?_⟩
  have hs : rewritten f.read f.json write s = .ok (write (f.json v)) := by
    rw [rewritten, hdecode]
    rfl
  have hback : ∀ s v, decode f.read s = .ok v → RoundTrips f.read f.json v :=
    fun _ _ h => (dated_of_decode h).readsBack.roundTrips
  exact ⟨hs, rewritten_idem hback hwrite hs⟩

/-- A name with a control character, a quote and a character beyond the first plane, the largest
counter, and a leap second of a far year; the fields in another order and with an unknown one. -/
def oddText : String :=
  "\x7b \"Connections\": [\x7b\"Start\": \"+012345-06-30t23:59:60.000000001+00:00\"," ++
    " \"Age\": [1e400, \x7b\x7d], \"Download\": 18446744073709551615," ++
    " \"ID\": \"\\u0001\\\"\\ud83d\\ude00\", \"Metadata\": null\x7d]\x7d"

def oddSnapshot : Wire.Snapshot where
  connections := [{
    id := some "\x01\"😀"
    counters := { download := 18446744073709551615 }
    start := some ⟨3789571, 86399, 1000000001⟩ }]

theorem odd_snapshot_round_trips :
    decode Wire.Snapshot.read oddText = .ok oddSnapshot ∧
      RoundTrips Wire.Snapshot.read Wire.Snapshot.json oddSnapshot := by
  have hdecode : decode Wire.Snapshot.read oddText = .ok oddSnapshot := by decide +kernel
  exact ⟨hdecode, (decoded_round_trips .snapshot oddText oddSnapshot hdecode).1⟩

end Form

end TrafficWatch
