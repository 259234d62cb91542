import TrafficWatch.Commands.Logs
import TrafficWatch.Commands.Watch
import TrafficWatch.Config.Check
import TrafficWatch.Control.Client
import TrafficWatch.Proofs.Stream.Retrying
import TrafficWatch.Proofs.Url.Authority

/-!
What a checked configuration is good for. Whatever is made of it later can be made: the addresses
of the streams, the client and its requests, the local server, and the waits between attempts.
-/

namespace TrafficWatch

open Url Url.Address

namespace Endpoint

variable {e : Endpoint} {a : Address}

theorem colon_mem_authority (e : Endpoint) : ∃ c ∈ kept e.authority, isSlash c = false := by
  refine ⟨':', ?_, rfl⟩
  unfold authority
  rw [kept_append, kept_append, List.mem_append, List.mem_append]
  exact .inl (.inr (List.mem_singleton_self _))

/-- An endpoint with a base has an address under every scheme and path, on the same host. -/
theorem exists_address (h : e.httpBase = .ok a) (scheme : Scheme) (path : String)
    {rest : List Char} (hpath : kept path = '/' :: rest) :
    ∃ a', e.address scheme path = .ok a' ∧ a'.host = a.host := by
  have hroot : kept "/" = ['/'] := rfl
  exact exists_parse e.colon_mem_authority hroot hpath h

theorem exists_connections (h : e.httpBase = .ok a) (interval : Option UInt64) :
    ∃ a', e.connections interval = .ok a' ∧ a'.host = a.host := by
  obtain ⟨a', ha, hhost⟩ := exists_address h e.streamScheme "/api/connections" rfl
  exact ⟨_, bind_eq_ok.mpr ⟨a', ha, rfl⟩, hhost⟩

theorem exists_logs (h : e.httpBase = .ok a) (level : String) :
    ∃ a', e.logs level = .ok a' ∧ a'.host = a.host := by
  obtain ⟨a', ha, hhost⟩ := exists_address h e.streamScheme "/api/logs" rfl
  exact ⟨_, bind_eq_ok.mpr ⟨a', ha, rfl⟩, hhost⟩

end Endpoint

namespace Config

variable {c : Config}

/-- What a check has found out. -/
structure Checked (c : Config) : Prop where
  secret : ∀ s ∈ c.secret, ∀ ch ∈ s.toList, Text.isControl ch = false
  snapshotInterval : c.snapshotIntervalMs ≠ some 0
  requestTimeout : c.requestTimeoutSecs ≠ some 0
  renderInterval : c.renderIntervalMs ≠ some 0
  retries : c.stream.minRetryMs ≤ c.stream.maxRetryMs
  server : c.servesHttp = true →
    c.listenPort ≠ some 0 ∧ (IpAddress.parse? c.bindAddress).isSome = true
  base : ∃ a, c.endpoint.httpBase = .ok a

theorem refuse_eq_ok {condition : Bool} {fault : ConfigFault} :
    refuse condition fault = .ok () ↔ condition = false := by
  cases condition
  · exact ⟨fun _ => rfl, fun _ => rfl⟩
  · exact ⟨nofun, nofun⟩

/-- A refusal that does not come leads on to the next step. -/
theorem refuse_bind_eq_ok {condition : Bool} {fault : ConfigFault}
    {next : Unit → Except ConfigFault Unit} :
    (refuse condition fault >>= next) = .ok () ↔ condition = false ∧ next () = .ok () := by
  cases condition
  · exact ⟨fun h => ⟨rfl, h⟩, fun h => h.2⟩
  · exact ⟨nofun, nofun⟩

theorem checkStream_eq_ok {s : Stream.Config} :
    checkStream s = .ok () ↔ s.bufferLength ≤ maxBufferLength ∧ s.minRetryMs ≤ s.maxRetryMs := by
  rw [checkStream, refuse_bind_eq_ok, refuse_eq_ok, decide_eq_false_iff_not,
    decide_eq_false_iff_not, UInt64.not_lt, UInt64.not_lt]

theorem checkServer_eq_ok : checkServer c = .ok () ↔
    c.listenPort ≠ some 0 ∧ (IpAddress.parse? c.bindAddress).isSome = true := by
  rw [checkServer, refuse_bind_eq_ok, refuse_eq_ok, beq_eq_false_iff_ne, Option.isNone_eq_false_iff]

theorem checked (h : c.check = .ok ()) : c.Checked := by
  simp only [check, refuse_bind_eq_ok] at h
  obtain ⟨-, -, hsecret, hinterval, htimeout, hrender, h⟩ := h
  obtain ⟨⟨⟩, hstream, h⟩ := bind_eq_ok.mp h
  have hsecret' : ∀ s ∈ c.secret, ∀ ch ∈ s.toList, Text.isControl ch = false := fun s hs ch hch => by
    rw [Option.mem_def.mp hs, Option.any_some, List.any_eq_false] at hsecret
    exact Bool.eq_false_iff.mpr (hsecret ch hch)
  suffices hlast : (c.servesHttp = true →
      c.listenPort ≠ some 0 ∧ (IpAddress.parse? c.bindAddress).isSome = true) ∧
      ∃ a, c.endpoint.httpBase = .ok a from
    ⟨hsecret', ne_of_beq_false hinterval, ne_of_beq_false htimeout, ne_of_beq_false hrender,
      (checkStream_eq_ok.mp hstream).2, hlast.1, hlast.2⟩
  cases hbase : c.endpoint.httpBase with
  | error e =>
    rw [hbase] at h
    split at h
    · obtain ⟨⟨⟩, -, h⟩ := bind_eq_ok.mp h
      cases h
    · cases h
  | ok a =>
    refine ⟨fun hserves => ?_, a, rfl⟩
    rw [if_pos hserves] at h
    obtain ⟨⟨⟩, hserver, -⟩ := bind_eq_ok.mp h
    exact checkServer_eq_ok.mp hserver

/-- What headers may hold: bytes from the blank on but for one, and tabs. -/
def HeaderByte (b : UInt8) : Prop := b = 9 ∨ 32 ≤ b ∧ b ≠ 127

/-- Everything that is made of a configuration later can be made of it. -/
structure Usable (c : Config) : Prop where
  /-- The streams have addresses, at any interval and level. -/
  connections : ∀ interval, ∃ a, c.endpoint.connections interval = .ok a
  logs : ∀ level, ∃ a, c.endpoint.logs level = .ok a
  /-- There is a client, its secret can stand in a header, and each of its requests is sent. -/
  client : ∃ k, Control.Client.create c.endpoint = .ok k ∧
    (∀ value ∈ k.authorization, ∀ b ∈ Text.bytes value, HeaderByte b) ∧
    ∀ exchange o, Control.send c.endpoint exchange o = .ok (exchange (k.request o))
  /-- If the local server runs, it has somewhere to listen. -/
  server : c.servesHttp = true → ∃ ip port, c.listenAddress = some (ip, port) ∧ port ≠ 0
  renderInterval : 0 < c.renderInterval
  requestTimeout : 0 < c.requestTimeout
  /-- Over any run of failures and successes, waits are made of durations and keep to the bounds. -/
  retries : ∀ b, c.stream.backoff.Reaches b → b.current * 2 < Stream.durationLimit ∧
    ∀ jitter : Rat, 0 ≤ jitter → jitter ≤ 1 / 10 →
      (b.current : Rat) * (1 + jitter) < Stream.durationLimit ∧
        (Nat.max c.stream.minRetryMs.toNat Stream.minRetryFloor : Nat) ≤ b.delay jitter ∧
        b.delay jitter ≤ (Nat.max c.stream.maxRetryMs.toNat Stream.minRetryFloor : Nat)
  /-- The live view and the log start. -/
  watch : ∀ options disk home moment jitter,
    ∃ v, LiveView.start c options disk home moment jitter = .ok v
  log : ∀ asked disk home jitter, ∃ v, LogView.start c asked disk home jitter = .ok v

theorem not_isControl {ch : Char} (h : Text.isControl ch = false) :
    32 ≤ ch.toNat ∧ ch.toNat ≠ 127 := by
  simp only [Text.isControl, Bool.or_eq_false_iff, Bool.and_eq_false_iff,
    decide_eq_false_iff_not] at h
  omega

/-- Only bytes that headers may hold come from characters that they may hold. -/
theorem headerByte_of_mem {ch : Char} (hch : 32 ≤ ch.toNat ∧ ch.toNat ≠ 127) {b : UInt8}
    (hb : b ∈ String.utf8EncodeChar ch) : HeaderByte b := by
  have hrange : 32 ≤ ch.val.toNat ∧ ch.val.toNat ≠ 127 := hch
  suffices hbyte : 32 ≤ b.toNat ∧ b.toNat ≠ 127 from
    .inr ⟨UInt8.le_iff_toNat_le.mpr hbyte.1, fun h => hbyte.2 (h ▸ rfl)⟩
  have hoctet : ∀ n, (UInt8.ofNat n).toNat = n % 256 := fun n => UInt8.toNat_ofNat'
  simp only [String.utf8EncodeChar] at hb
  -- every byte of a longer code has its highest bit set
  split at hb
  · rw [List.mem_singleton] at hb
    rw [hb, hoctet]
    omega
  split at hb
  · simp only [List.mem_cons, List.not_mem_nil, or_false] at hb
    obtain rfl | rfl := hb <;> rw [hoctet] <;> omega
  split at hb
  · simp only [List.mem_cons, List.not_mem_nil, or_false] at hb
    obtain rfl | rfl | rfl := hb <;> rw [hoctet] <;> omega
  · simp only [List.mem_cons, List.not_mem_nil, or_false] at hb
    obtain rfl | rfl | rfl | rfl := hb <;> rw [hoctet] <;> omega

theorem Checked.exists_client (h : c.Checked) : ∃ k, Control.Client.create c.endpoint = .ok k ∧
    (∀ value ∈ k.authorization, ∀ b ∈ Text.bytes value, HeaderByte b) ∧
    ∀ exchange o, Control.send c.endpoint exchange o = .ok (exchange (k.request o)) := by
  obtain ⟨base, hbase⟩ := h.base
  have hsecret : ∀ ch ∈ c.endpoint.secret.toList, 32 ≤ ch.toNat ∧ ch.toNat ≠ 127 := by
    intro ch hch
    cases hs : c.secret with
    | none =>
      rw [endpoint, hs] at hch
      cases hch
    | some s =>
      rw [endpoint, hs] at hch
      exact not_isControl (h.secret s hs ch hch)
  have hall : c.endpoint.secret.toList.all Control.isHeaderChar = true := by
    rw [List.all_eq_true]
    intro ch hch
    simp [Control.isHeaderChar, hsecret ch hch]
  have hcreate : Control.Client.create c.endpoint = .ok ⟨base,
      if c.endpoint.secret.isEmpty then none else some ("Bearer " ++ c.endpoint.secret)⟩ := by
    rw [Control.Client.create, hall, hbase]
    rfl
  refine ⟨_, hcreate, ?_, fun exchange o => ?_⟩
  · intro value hvalue b hb
    have hvalue : value = "Bearer " ++ c.endpoint.secret := by
      dsimp only at hvalue
      split at hvalue
      · cases hvalue
      · exact (Option.some.inj hvalue).symm
    have hbearer : "Bearer ".toList.all (fun ch => 32 ≤ ch.toNat ∧ ch.toNat ≠ 127) = true := by
      decide
    have hname : ∀ ch ∈ "Bearer ".toList, 32 ≤ ch.toNat ∧ ch.toNat ≠ 127 := fun ch hch =>
      of_decide_eq_true (List.all_eq_true.mp hbearer ch hch)
    rw [Text.bytes_eq_flatMap, hvalue, String.toList_append, List.mem_flatMap] at hb
    obtain ⟨ch, hch, hb⟩ := hb
    exact headerByte_of_mem ((List.mem_append.mp hch).elim (hname ch) (hsecret ch)) hb
  · rw [Control.send, hcreate]
    rfl

theorem Checked.server_listens (h : c.Checked) (hserves : c.servesHttp = true) :
    ∃ ip port, c.listenAddress = some (ip, port) ∧ port ≠ 0 := by
  obtain ⟨hport, hbind⟩ := h.server hserves
  obtain ⟨ip, hip⟩ := Option.isSome_iff_exists.mp hbind
  refine ⟨ip, c.listenPort.getD 9216, by rw [listenAddress, hip]; rfl, ?_⟩
  cases hlisten : c.listenPort with
  | none => decide
  | some port =>
    rintro rfl
    exact hport hlisten

theorem getD_pos {o : Option UInt64} {default : UInt64} (ho : o ≠ some 0) (hdefault : 0 < default) :
    0 < o.getD default := by
  cases o with
  | none => exact hdefault
  | some n => exact UInt64.pos_iff_ne_zero.mpr fun h => ho (congrArg some h)

theorem Checked.retries_fit (h : c.Checked) {b : Stream.Backoff} (hb : c.stream.backoff.Reaches b) :
    b.current * 2 < Stream.durationLimit ∧ ∀ jitter : Rat, 0 ≤ jitter → jitter ≤ 1 / 10 →
      (b.current : Rat) * (1 + jitter) < Stream.durationLimit ∧
        (Nat.max c.stream.minRetryMs.toNat Stream.minRetryFloor : Nat) ≤ b.delay jitter ∧
        b.delay jitter ≤ (Nat.max c.stream.maxRetryMs.toNat Stream.minRetryFloor : Nat) := by
  have hsound : b.Sound := hb.sound (Stream.Backoff.sound_create _ _)
  have hmax : b.max < 18446744073709551616 := hb.bounds.2 ▸ c.stream.backoff_max_lt
  obtain ⟨hlow, hhigh⟩ := Stream.Config.backoff_bounds h.retries
  rw [← hlow, ← hhigh, ← hb.bounds.1, ← hb.bounds.2]
  have hdouble := (hsound.fits hmax (by norm_num : (0 : Rat) ≤ 1 / 10)).1
  exact ⟨hdouble, fun jitter _ hjitter => ⟨(hsound.fits hmax hjitter).2, hsound.delay_bounds jitter⟩⟩

theorem Checked.usable (h : c.Checked) : c.Usable := by
  obtain ⟨base, hbase⟩ := h.base
  have hconnections : ∀ interval, ∃ a, c.endpoint.connections interval = .ok a := fun interval => by
    obtain ⟨a, ha, -⟩ := Endpoint.exists_connections hbase interval
    exact ⟨a, ha⟩
  have hlogs : ∀ level, ∃ a, c.endpoint.logs level = .ok a := fun level => by
    obtain ⟨a, ha, -⟩ := Endpoint.exists_logs hbase level
    exact ⟨a, ha⟩
  exact {
    connections := hconnections
    logs := hlogs
    client := h.exists_client
    server := h.server_listens
    renderInterval := getD_pos h.renderInterval (by decide)
    requestTimeout := getD_pos h.requestTimeout (by decide)
    retries := fun _ hb => h.retries_fit hb
    watch := fun options disk home moment jitter => by
      obtain ⟨a, ha⟩ := hconnections c.snapshotIntervalMs
      have hlisten : (c.servesHttp && c.listenAddress.isNone) = false := by
        rw [Bool.and_eq_false_imp]
        intro hserves
        obtain ⟨ip, port, hlisten, -⟩ := h.server_listens hserves
        rw [hlisten]
        rfl
      simp only [LiveView.start, ha, hlisten]
      exact ⟨_, rfl⟩
    log := fun asked disk home jitter => by
      obtain ⟨a, ha⟩ := hlogs (LogView.level c asked disk home)
      rw [LogView.start, ha]
      exact ⟨_, rfl⟩ }

/-- The check suffices: no later use of a configuration fails for what the check looks at. -/
theorem check_suffices (h : c.check = .ok ()) : c.Usable := (checked h).usable

/-- An address with colons, a secret beyond ASCII, the local server, and bounds below the floor. -/
def guarded : Config :=
  { host := some "::1"
    port := some 8443
    secret := some "pässword \"1\""
    tls := some true
    enableHttp := some true
    bind := some "0.0.0.0"
    listenPort := none
    stream := { minRetryMs := 0, maxRetryMs := 18446744073709551615 } }

theorem guarded_usable : guarded.check = .ok () ∧ guarded.Usable := by
  have hcheck : guarded.check = .ok () := by decide +kernel
  exact ⟨hcheck, check_suffices hcheck⟩

end Config

end TrafficWatch
