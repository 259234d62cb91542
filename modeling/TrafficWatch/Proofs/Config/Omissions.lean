import TrafficWatch.Config.Check
import TrafficWatch.Config.Load
import TrafficWatch.Proofs.Files.Saving
import TrafficWatch.Proofs.Json.Rewriting
import TrafficWatch.Proofs.Json.Written

/-!
What a configuration leaves open. Defaults stand in two places: in the configuration that is built
in, and wherever a field is used that nothing is said of. They agree, so it makes no difference
which of them is met, and a file that says nothing is as good as no file.
-/

namespace TrafficWatch

open Files

namespace Schema

variable {V E σ : Type} {s : Schema V E σ} (rules : MemberRules V E) {v : V}

def fieldName? (s : Schema V E σ) (key : String) : Option String := (s.find? key).map (·.name)

/-- Members that leave the blank record as it is may come in any number, but each field once. -/
theorem foldlM_blank {keys : List String}
    (hkeys : ∀ key ∈ keys, ∃ f, s.find? key = some f ∧ f.read v s.blank = .ok s.blank)
    (hnodup : (keys.map s.fieldName?).Nodup) (seen : List String)
    (hseen : ∀ name ∈ seen, some name ∉ keys.map s.fieldName?) :
    ∃ seen', (keys.map fun key => (Except.ok key, v)).foldlM (s.readMember rules) (s.blank, seen) =
      .ok (s.blank, seen') := by
  induction keys generalizing seen with
  | nil => exact ⟨seen, rfl⟩
  | cons key keys ih =>
    obtain ⟨f, hf, hread⟩ := hkeys key List.mem_cons_self
    have hname : s.fieldName? key = some f.name := by rw [fieldName?, hf, Option.map_some]
    rw [List.map_cons, hname] at hnodup hseen
    rw [List.nodup_cons] at hnodup
    have hnew : f.name ∉ seen := fun hmem => hseen f.name hmem List.mem_cons_self
    have hseen' : ∀ name ∈ f.name :: seen, some name ∉ keys.map s.fieldName? := by
      intro name hmem
      obtain rfl | hmem := List.mem_cons.mp hmem
      · exact hnodup.1
      · exact fun hkey => hseen name hmem (List.mem_cons_of_mem _ hkey)
    obtain ⟨seen', hrest⟩ := ih (fun key' hkey' => hkeys key' (List.mem_cons_of_mem _ hkey'))
      hnodup.2 (f.name :: seen) hseen'
    refine ⟨seen', ?_⟩
    rw [List.map_cons, List.foldlM_cons, readMember_known hf hnew, hread]
    exact hrest

/-- A field that is given again is refused, whatever its value. -/
theorem foldlM_repeated {keys : List String}
    (hkeys : ∀ key ∈ keys, ∃ f, s.find? key = some f ∧ f.read v s.blank = .ok s.blank)
    (seen : List String) (hagain : ¬ (keys.map s.fieldName?).Nodup ∨
      ∃ name ∈ seen, some name ∈ keys.map s.fieldName?) :
    ∃ name, (keys.map fun key => (Except.ok key, v)).foldlM (s.readMember rules) (s.blank, seen) =
      .error (rules.duplicate name) := by
  induction keys generalizing seen with
  | nil =>
    obtain h | ⟨_, _, hmem⟩ := hagain
    · exact absurd List.nodup_nil h
    · exact nomatch hmem
  | cons key keys ih =>
    obtain ⟨f, hf, hread⟩ := hkeys key List.mem_cons_self
    have hname : s.fieldName? key = some f.name := by rw [fieldName?, hf, Option.map_some]
    by_cases hold : f.name ∈ seen
    · refine ⟨f.name, ?_⟩
      rw [List.map_cons, List.foldlM_cons, readMember_repeated hf hold]
      rfl
    · have hagain' : ¬ (keys.map s.fieldName?).Nodup ∨
          ∃ name ∈ f.name :: seen, some name ∈ keys.map s.fieldName? := by
        rw [List.map_cons, hname] at hagain
        obtain h | ⟨name, hmem, hkey⟩ := hagain
        · rw [List.nodup_cons, not_and_or, not_not] at h
          exact h.elim (fun h => .inr ⟨f.name, List.mem_cons_self, h⟩) .inl
        · obtain heq | hkey := List.mem_cons.mp hkey
          · cases heq
            exact absurd hmem hold
          · exact .inr ⟨name, List.mem_cons_of_mem _ hmem, hkey⟩
      obtain ⟨name, hrest⟩ := ih (fun key' hkey' => hkeys key' (List.mem_cons_of_mem _ hkey'))
        (f.name :: seen) hagain'
      refine ⟨name, ?_⟩
      rw [List.map_cons, List.foldlM_cons, readMember_known hf hold, hread]
      exact hrest

end Schema

namespace Config

/-- The fields that have a default and may be left open. -/
inductive Omissible where
  | host
  | port
  | tls
  | requestTimeoutSecs
  | renderIntervalMs
  | enableHttp
  | bind
  | listenPort
deriving DecidableEq, Repr

def orDefault {α : Type} (chosen : Bool) (given default : Option α) : Option α :=
  if chosen then given <|> default else given

/-- Puts in defaults for chosen fields that a configuration leaves open. -/
def fill (chosen : Omissible → Bool) (c : Config) : Config :=
  let builtIn : Config := {}
  { c with
    host := orDefault (chosen .host) c.host builtIn.host
    port := orDefault (chosen .port) c.port builtIn.port
    tls := orDefault (chosen .tls) c.tls builtIn.tls
    requestTimeoutSecs :=
      orDefault (chosen .requestTimeoutSecs) c.requestTimeoutSecs builtIn.requestTimeoutSecs
    renderIntervalMs :=
      orDefault (chosen .renderIntervalMs) c.renderIntervalMs builtIn.renderIntervalMs
    enableHttp := orDefault (chosen .enableHttp) c.enableHttp builtIn.enableHttp
    bind := orDefault (chosen .bind) c.bind builtIn.bind
    listenPort := orDefault (chosen .listenPort) c.listenPort builtIn.listenPort }

/-- Two configurations are of the same use. -/
structure Alike (c c' : Config) : Prop where
  endpoint : c.endpoint = c'.endpoint
  snapshotInterval : c.snapshotIntervalMs = c'.snapshotIntervalMs
  requestTimeout : c.requestTimeout = c'.requestTimeout
  renderInterval : c.renderInterval = c'.renderInterval
  settingsPath : ∀ home, c.settingsPath home = c'.settingsPath home
  stream : c.stream = c'.stream
  /-- The same is wrong with both. -/
  check : c.check = c'.check
  servesHttp : c.servesHttp = c'.servesHttp
  listenAddress : c.listenAddress = c'.listenAddress

@[symm]
theorem Alike.symm {c c' : Config} (h : c.Alike c') : c'.Alike c := by
  cases h
  constructor <;> simp only [*, implies_true]

theorem getD_orDefault {α : Type} (chosen : Bool) (given : Option α) (default : α) :
    (orDefault chosen given (some default)).getD default = given.getD default := by
  cases chosen <;> cases given <;> rfl

/-- A default that passes a test of the given value changes nothing about the test. -/
theorem any_orDefault {α : Type} {test : α → Bool} {default : α} (h : test default = false)
    (chosen : Bool) (given : Option α) :
    (orDefault chosen given (some default)).any test = given.any test := by
  cases chosen <;> cases given <;> simp [orDefault, h]

theorem beq_orDefault {α : Type} [BEq α] {a default : α} (h : (default == a) = false)
    (chosen : Bool) (given : Option α) :
    (orDefault chosen given (some default) == some a) = (given == some a) := by
  cases chosen <;> cases given <;> simp [orDefault, h]

variable (chosen : Omissible → Bool) (c : Config)

theorem endpoint_fill : (c.fill chosen).endpoint = c.endpoint := by
  simp only [endpoint, fill, getD_orDefault]

theorem bindAddress_fill : (c.fill chosen).bindAddress = c.bindAddress := getD_orDefault ..

theorem servesHttp_fill : (c.fill chosen).servesHttp = c.servesHttp := getD_orDefault ..

theorem listenAddress_fill : (c.fill chosen).listenAddress = c.listenAddress := by
  simp only [listenAddress, bindAddress_fill]
  simp only [fill, getD_orDefault]

/-- Every default passes the checks of its own field. -/
theorem check_fill : (c.fill chosen).check = c.check := by
  have hhost : (c.fill chosen).host.any (fun h => (Text.trim h).isEmpty) =
      c.host.any fun h => (Text.trim h).isEmpty := any_orDefault (by decide +kernel) ..
  have hport : ((c.fill chosen).port == some 0) = (c.port == some 0) :=
    beq_orDefault (by decide) ..
  have htimeout : ((c.fill chosen).requestTimeoutSecs == some 0) =
      (c.requestTimeoutSecs == some 0) := beq_orDefault (by decide) ..
  have hrender : ((c.fill chosen).renderIntervalMs == some 0) = (c.renderIntervalMs == some 0) :=
    beq_orDefault (by decide) ..
  have hlisten : ((c.fill chosen).listenPort == some 0) = (c.listenPort == some 0) :=
    beq_orDefault (by decide) ..
  simp only [check, checkServer, hhost, hport, htimeout, hrender, hlisten, endpoint_fill,
    bindAddress_fill, servesHttp_fill]
  rfl

theorem alike_fill : (c.fill chosen).Alike c where
  endpoint := endpoint_fill chosen c
  snapshotInterval := rfl
  requestTimeout := getD_orDefault ..
  renderInterval := getD_orDefault ..
  settingsPath _ := rfl
  stream := rfl
  check := check_fill chosen c
  servesHttp := servesHttp_fill chosen c
  listenAddress := listenAddress_fill chosen c

theorem orDefault_orElse {α : Type} (said default : Option α) :
    orDefault true (said <|> none) default = (said <|> default) := by
  cases said <;> rfl

/-- What the command line does not say is filled in the same way from either side. -/
theorem fill_override (o : Overrides) :
    (override o blank).fill (fun _ => true) = override o {} := by
  have hflag (said : Bool) : orDefault true (if said then some true else none) (some false) =
      if said then some true else some false := by
    cases said <;> rfl
  simp only [override, blank, fill, orDefault_orElse, hflag]
  rfl

/-- An object that sets some fields to null, each under one of its names. -/
def nulls (keys : List String) : Json.Doc := .object (keys.map fun key => (.ok key, .null)) .closed

/-- A name of a field that may be left out. -/
def NamesOptional (key : String) : Prop :=
  ∃ f, (schema Json.Doc.leaves).find? key = some f ∧ f.presence = .optional

instance (key : String) : Decidable (NamesOptional key) :=
  decidable_of_iff (((schema Json.Doc.leaves).find? key).any (·.presence == .optional)) (by
    simp only [Option.any_eq_true, beq_iff_eq, NamesOptional])

/-- No field is given twice, be it under one name or under two. -/
def EachOnce (keys : List String) : Prop :=
  (keys.map (schema Json.Doc.leaves).fieldName?).Nodup

instance (keys : List String) : Decidable (EachOnce keys) :=
  inferInstanceAs (Decidable (List.Nodup _))

theorem read_null {f : Field Json.Doc Json.DecodeError Config}
    (hf : f ∈ (schema Json.Doc.leaves).fields) (hoptional : f.presence = .optional) :
    f.read .null blank = .ok blank := by
  revert f
  simp only [schema, List.forall_mem_cons]
  refine ⟨?_, ?_, ?_, ?_, ?_, ?_, ?_, ?_, ?_, ?_, ?_, ?_, nofun⟩
  all_goals first | exact fun _ => rfl | exact nofun

theorem NamesOptional.find? {key : String} (h : NamesOptional key) :
    ∃ f, (schema Json.Doc.leaves).find? key = some f ∧ f.read .null blank = .ok blank := by
  obtain ⟨f, hf, hoptional⟩ := h
  exact ⟨f, hf, read_null (Schema.mem_of_find? hf) hoptional⟩

theorem map_nulls (keys : List String) :
    (keys.map fun key => (Except.ok key, Json.Doc.null)).map
      (fun m : Json.Member => (Json.Doc.liftFault m.1, m.2)) =
      keys.map fun key => (Except.ok key, .null) := by
  rw [List.map_map]
  rfl

theorem read_nulls {keys : List String} (hkeys : ∀ key ∈ keys, NamesOptional key)
    (honce : EachOnce keys) :
    Json.Doc.asRecord (schema Json.Doc.leaves) (nulls keys) = .ok blank := by
  obtain ⟨seen, hfold⟩ := Schema.foldlM_blank Json.Doc.memberRules
    (fun key hkey => (hkeys key hkey).find?) honce [] nofun
  have hnone : (schema Json.Doc.leaves).firstMissing seen = none := rfl
  rw [nulls, Json.Doc.asRecord, map_nulls, Schema.readMembers]
  exact bind_eq_ok.mpr ⟨_, hfold, by simp only [hnone, Json.Doc.endingError]; rfl⟩

theorem read_nulls_twice {keys : List String} (hkeys : ∀ key ∈ keys, NamesOptional key)
    (htwice : ¬ EachOnce keys) :
    ∃ name, Json.Doc.asRecord (schema Json.Doc.leaves) (nulls keys) =
      .error (.data (.duplicate name)) := by
  obtain ⟨name, hfold⟩ := Schema.foldlM_repeated Json.Doc.memberRules
    (fun key hkey => (hkeys key hkey).find?) [] (.inl htwice)
  refine ⟨name, ?_⟩
  rw [nulls, Json.Doc.asRecord, map_nulls, Schema.readMembers]
  exact congrArg (· >>= _) hfold

end Config

/-- The file that a configuration is read from, if any. -/
def ConfigSource.file? (d : Disk) : ConfigSource → Option String
  | .builtIn => none
  | .usualPlaces => Config.usualPlaces.find? d.has
  | .file path => some path

namespace Config

variable {d : Disk} {source : ConfigSource} {path content : String} {keys : List String}

theorem load_of_file (hfile : source.file? d = some path) (htext : d.readText path = .ok content) :
    load d source = ofText path content := by
  have hloaded : loadFile d path = ofText path content := by
    rw [loadFile, htext]
    rfl
  cases source with
  | builtIn => cases hfile
  | usualPlaces =>
    rw [load, show usualPlaces.find? d.has = some path from hfile]
    exact hloaded
  | file p =>
    cases hfile
    rw [load, if_pos (Disk.has_of_readText htext), hloaded]

theorem load_of_no_file (hfile : source.file? d = none) : load d source = .ok {} := by
  cases source with
  | builtIn => rfl
  | usualPlaces => rw [load, show usualPlaces.find? d.has = none from hfile]
  | file p => cases hfile

/-- The configuration is read from a JSON file whose members are optional fields set to null. -/
def NullFile (d : Disk) (source : ConfigSource) (keys : List String) : Prop :=
  ∃ path content, source.file? d = some path ∧ (Path.ofText path).extension? = some "json" ∧
    d.readText path = .ok content ∧ Json.Text.Holds content (nulls keys) ∧
    ∀ key ∈ keys, NamesOptional key

theorem NullFile.optional (h : NullFile d source keys) : ∀ key ∈ keys, NamesOptional key := by
  obtain ⟨_, _, _, _, _, _, hkeys⟩ := h
  exact hkeys

theorem NullFile.load_eq (h : NullFile d source keys) :
    load d source = (Json.Doc.asRecord (schema Json.Doc.leaves) (nulls keys)).mapError .json := by
  obtain ⟨path, content, hfile, hjson, htext, hholds, -⟩ := h
  rw [load_of_file hfile htext, ofText, hjson, Json.decode, hholds.read]
  cases Json.Doc.asRecord (schema Json.Doc.leaves) (nulls keys) <;> rfl

def configFile (content : String) : Disk := Disk.empty.put ["c.json"] (.file content.toUTF8)

def nullsText (keys : List String) : String :=
  (Json.Value.object (keys.map fun key => (key, .null))).compactText

theorem memberDocs_nulls (keys : List String) :
    Json.Value.memberDocs (keys.map fun key => (key, .null)) =
      keys.map fun key => (Except.ok key, .null) := by
  induction keys with
  | nil => rfl
  | cons key keys ih =>
    rw [List.map_cons, List.map_cons, Json.Value.memberDocs, ih]
    rfl

theorem holds_nullsText (keys : List String) : Json.Text.Holds (nullsText keys) (nulls keys) := by
  have hdoc : (Json.Value.object (keys.map fun key => (key, .null))).doc = nulls keys := by
    rw [Json.Value.doc, memberDocs_nulls, nulls]
  have hfaultless : (nulls keys).Faultless := by
    rw [nulls, Json.Doc.faultless_object, List.forall_mem_map]
    exact ⟨fun _ _ => Json.Doc.faultless_null, rfl⟩
  exact hdoc ▸ Json.Value.holds_write Json.Value.blank_compact (hdoc ▸ hfaultless)

theorem nullFile_configFile {keys : List String} (hkeys : ∀ key ∈ keys, NamesOptional key) :
    NullFile (configFile (nullsText keys)) (.file "c.json") keys := by
  have hplace : (configFile (nullsText keys)).locate "c.json" = .ok ["c.json"] :=
    (Disk.keeps_put (by decide) _).locate (by decide +kernel)
  have hfile : (configFile (nullsText keys)).lookup ["c.json"] =
      some (.file (nullsText keys).toUTF8) := by
    rw [configFile, Disk.lookup_put _ (List.cons_ne_nil _ _), if_pos rfl]
  refine ⟨"c.json", nullsText keys, rfl, by decide +kernel, ?_, holds_nullsText keys, hkeys⟩
  rw [Disk.readText_of_lookup hplace hfile, Text.fromUTF8?_toUTF8]

/-- It makes no difference which of the fields with a default a configuration leaves open. So a file
that says nothing is as good as no file, whatever the command line says, unless it says nothing
twice about one field: then it is refused. -/
theorem omissions_mean_defaults :
    (∀ chosen c, (fill chosen c).Alike c) ∧
    ∀ d source keys, NullFile d source keys → ∀ o,
      (EachOnce keys → ∃ c, resolve d source o = .ok c ∧ ∀ d' source', source'.file? d' = none →
        ∃ c', resolve d' source' o = .ok c' ∧ c.Alike c') ∧
      (¬ EachOnce keys → ∃ name, resolve d source o = .error (.json (.data (.duplicate name)))) := by
  refine ⟨alike_fill, fun d source keys h o => ⟨fun honce => ?_, fun htwice => ?_⟩⟩
  · refine ⟨override o blank, ?_, fun d' source' hnone => ⟨override o {}, ?_, ?_⟩⟩
    · rw [resolve, h.load_eq, read_nulls h.optional honce]
      rfl
    · rw [resolve, load_of_no_file hnone]
      rfl
    · rw [← fill_override]
      exact (alike_fill _ _).symm
  · obtain ⟨name, hread⟩ := read_nulls_twice h.optional htwice
    exact ⟨name, by rw [resolve, h.load_eq, hread]; rfl⟩

theorem null_port_counts_as_no_port :
    (∃ c, resolve (configFile "\x7b\"port\":null\x7d") (.file "c.json") { tls := true } = .ok c ∧
      ∀ d' source', source'.file? d' = none →
        ∃ c', resolve d' source' { tls := true } = .ok c' ∧ c.Alike c') ∧
    ∃ name, resolve (configFile (nullsText ["port", "api-port"])) (.file "c.json") {} =
      .error (.json (.data (.duplicate name))) := by
  have htext : "\x7b\"port\":null\x7d" = nullsText ["port"] := by decide +kernel
  rw [htext]
  exact ⟨(omissions_mean_defaults.2 _ _ _ (nullFile_configFile (by decide)) _).1 (by decide),
    (omissions_mean_defaults.2 _ _ _ (nullFile_configFile (by decide)) _).2 (by decide)⟩

/-- Both names of the port stand in the file, with nothing said under either. -/
theorem port_twice_null_is_refused :
    NullFile (configFile "\x7b\"port\":null,\"api_port\":null\x7d") (.file "c.json")
      ["port", "api_port"] ∧
    resolve (configFile "\x7b\"port\":null,\"api_port\":null\x7d") (.file "c.json") {} =
      .error (.json (.data (.duplicate "port"))) ∧
    resolve Disk.empty .builtIn {} = .ok {} := by
  have htext : "\x7b\"port\":null,\"api_port\":null\x7d" = nullsText ["port", "api_port"] := by
    decide +kernel
  refine ⟨?_, by decide +kernel, rfl⟩
  rw [htext]
  exact nullFile_configFile (by decide)

end Config

end TrafficWatch
