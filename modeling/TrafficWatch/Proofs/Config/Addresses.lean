import TrafficWatch.Proofs.Config.Validation
import TrafficWatch.Proofs.Url.Boundaries

/-!
Where the addresses of a checked configuration lead. The check asks only that the host can be read as
a part of an address; whether the address then leads to that host, and to the port and the path that
it was made from, depends on whether the host names a host and nothing else.
-/

namespace TrafficWatch

open Url Url.Address

namespace Endpoint

variable {e : Endpoint} {base : Address}

/-- The host as it is put in an address. -/
def bracketed (e : Endpoint) : String :=
  if e.host.toList.contains ':' && e.host.toList.head? != some '[' then
    "[" ++ e.host ++ "]" else e.host

/-- What is read of the host: no tabs and line ends, and no slashes in front. -/
def written (e : Endpoint) : List Char := (kept e.bracketed).dropWhile isSlash

/-- The host, also without the one `@` that may stand in front of it. -/
def hostText (e : Endpoint) : List Char := afterAt e.written

/-- Nothing in the host makes a part of it something else than the host. -/
def NamesHostOnly (e : Endpoint) : Prop :=
  ∀ c ∈ e.hostText, endsAuthority c = false ∧ c ≠ '@'

instance : Decidable e.NamesHostOnly :=
  List.decidableBAll (fun c => endsAuthority c = false ∧ c ≠ '@') e.hostText

/-- All addresses lead to one host at the port of the endpoint, by the schemes that it asks for, to
the paths that they are made for, and say nothing else. -/
def Addressed (e : Endpoint) : Prop := ∀ interval level, ∃ base connections logs,
  e.httpBase = .ok base ∧ e.connections interval = .ok connections ∧ e.logs level = .ok logs ∧
    base.LeadsTo (if e.tls then .https else .http) base.host e.port.toNat [[]] ∧
    base.query = none ∧
    connections.LeadsTo (if e.tls then .wss else .ws) base.host e.port.toNat
      ["api".toList, "connections".toList] ∧
    logs.LeadsTo (if e.tls then .wss else .ws) base.host e.port.toNat
      ["api".toList, "logs".toList]

theorem dropWhile_kept (e : Endpoint) (path : String) :
    (kept ("//" ++ e.authority ++ path)).dropWhile isSlash =
      e.written ++ ':' :: (Nat.toDigits 10 e.port.toNat ++ kept path) := by
  have hauthority : e.authority = e.bracketed ++ ":" ++ toString e.port.toNat := rfl
  have hfront : kept "//" = ['/', '/'] := rfl
  have hcolon : kept ":" = [':'] := rfl
  rw [hauthority]
  simp only [kept_append, hfront, hcolon, kept_digits, List.append_assoc, List.cons_append,
    List.nil_append]
  rw [List.dropWhile_cons_of_pos rfl, List.dropWhile_cons_of_pos rfl,
    dropWhile_append_cons (by decide)]
  rfl

/-- A host with a colon begins with a bracket. -/
theorem head?_bracketed (h : ':' ∈ e.bracketed.toList) : e.bracketed.toList.head? = some '[' := by
  unfold bracketed at h ⊢
  split
  · rw [String.toList_append, String.toList_append]
    rfl
  · next hplain =>
    rw [if_neg hplain] at h
    by_contra hhead
    exact hplain (by simp [h, hhead])

theorem head?_written (e : Endpoint) : e.written.head? ≠ some ':' := by
  intro hhead
  have hmem : ':' ∈ kept e.bracketed := (List.dropWhile_sublist _).subset (List.mem_of_head? hhead)
  have hbracket := head?_bracketed (List.mem_of_mem_filter hmem)
  obtain ⟨rest, hlist⟩ := List.head?_eq_some_iff.mp hbracket
  have hkept : kept e.bracketed = '[' :: rest.filter (! ['\t', '\n', '\r'].contains ·) := by
    rw [kept, hlist]
    rfl
  rw [written, hkept, List.dropWhile_cons_of_neg (by decide)] at hhead
  exact absurd (Option.some.inj hhead) (by decide)

/-- A host that names a host only is the one that is addressed. -/
theorem leadsTo (hplain : e.NamesHostOnly) {scheme : Scheme} {path : String} {rest : List Char}
    (hpath : kept path = '/' :: rest) (hrest : '?' ∉ rest ∧ '#' ∉ rest) {a : Address}
    (h : e.address scheme path = .ok a) :
    a.LeadsTo scheme a.host e.port.toNat (parsePath ('/' :: rest)) ∧ a.query = none ∧
      parseHost e.hostText = .ok a.host := by
  have hs := e.dropWhile_kept path
  rw [hpath] at hs
  have hleads := leadsTo_of_plain hs Nat.toDigits_ne_nil (fun _ => Decimal.isDigit_of_mem_toDigits)
    hrest hplain h
  rwa [decimal_toDigits] at hleads

theorem exists_leadsTo (hbase : e.httpBase = .ok base) (hplain : e.NamesHostOnly)
    (scheme : Scheme) {path : String} {rest : List Char} (hpath : kept path = '/' :: rest)
    (hrest : '?' ∉ rest ∧ '#' ∉ rest) : ∃ a, e.address scheme path = .ok a ∧
      a.LeadsTo scheme base.host e.port.toNat (parsePath ('/' :: rest)) := by
  obtain ⟨a, ha, hhost⟩ := exists_address hbase scheme path hpath
  obtain ⟨hleads, -⟩ := leadsTo hplain hpath hrest ha
  exact ⟨a, ha, hhost ▸ hleads⟩

theorem addressed_of_namesHostOnly (hbase : e.httpBase = .ok base) (hplain : e.NamesHostOnly) :
    e.Addressed := by
  intro interval level
  have hroot : parsePath ['/'] = [[]] := by decide
  have hconnections : parsePath ('/' :: "api/connections".toList) =
      ["api".toList, "connections".toList] := by decide
  have hlogs : parsePath ('/' :: "api/logs".toList) = ["api".toList, "logs".toList] := by decide
  have hpath : kept "/" = ['/'] := rfl
  have hpathc : kept "/api/connections" = '/' :: "api/connections".toList := rfl
  have hpathl : kept "/api/logs" = '/' :: "api/logs".toList := rfl
  obtain ⟨hleads, hquery, -⟩ := leadsTo hplain hpath (by decide) hbase
  obtain ⟨c, hc, hleadsc⟩ := exists_leadsTo hbase hplain e.streamScheme hpathc (by decide)
  obtain ⟨l, hl, hleadsl⟩ := exists_leadsTo hbase hplain e.streamScheme hpathl (by decide)
  rw [hroot] at hleads
  rw [hconnections] at hleadsc
  rw [hlogs] at hleadsl
  exact ⟨base, _, _, hbase, bind_eq_ok.mpr ⟨c, hc, rfl⟩, bind_eq_ok.mpr ⟨l, hl, rfl⟩,
    hleads, hquery, hleadsc.withPairs _, hleadsl.withPairs _⟩

theorem namesHostOnly_of_addressed (h : e.Addressed) : e.NamesHostOnly := by
  obtain ⟨base, -, -, hbase, -, -, hleads, hquery, -⟩ := h none ""
  have hs := e.dropWhile_kept "/"
  have hds : ∀ d ∈ Nat.toDigits 10 e.port.toNat, d.isDigit = true :=
    fun _ => Decimal.isDigit_of_mem_toDigits
  have hwritten := plain_of_root hs hds hbase hleads.path hquery hleads.fragment
  exact plain_afterAt hs hds e.head?_written hwritten hbase hleads.username

end Endpoint

namespace Config

variable {c : Config}

/-- The addresses of a checked configuration lead to its API exactly if the host names a host and
nothing else, and then it is that host. -/
theorem addressed_iff_namesHostOnly (h : c.check = .ok ()) :
    (c.endpoint.Addressed ↔ c.endpoint.NamesHostOnly) ∧
      (c.endpoint.NamesHostOnly → ∃ base, c.endpoint.httpBase = .ok base ∧
        parseHost c.endpoint.hostText = .ok base.host) := by
  obtain ⟨base, hbase⟩ := (checked h).base
  refine ⟨⟨Endpoint.namesHostOnly_of_addressed, Endpoint.addressed_of_namesHostOnly hbase⟩, ?_⟩
  intro hplain
  have hpath : kept "/" = ['/'] := rfl
  exact ⟨base, hbase, (Endpoint.leadsTo hplain hpath (by decide) hbase).2.2⟩

theorem guarded_addressed : guarded.check = .ok () ∧ guarded.endpoint.Addressed := by
  have hcheck : guarded.check = .ok () := by decide +kernel
  have hplain : guarded.endpoint.NamesHostOnly := by decide +kernel
  exact ⟨hcheck, (addressed_iff_namesHostOnly hcheck).1.mpr hplain⟩

/-- A slash behind the host, as it is left over from a copied address. -/
def slashed : Config := { host := some "[::1]/" }

/-- The check lets the slash pass, and what is asked for goes to another port. -/
theorem slashed_not_addressed : slashed.check = .ok () ∧
    slashed.endpoint.httpBase.toOption.map (fun a => (a.text, a.effectivePort)) =
      some ("http://[::1]/:9090/", 80) ∧ ¬ slashed.endpoint.Addressed := by
  have hcheck : slashed.check = .ok () := by decide +kernel
  have hread : slashed.endpoint.httpBase.toOption.map (fun a => (a.text, a.effectivePort)) =
      some ("http://[::1]/:9090/", 80) := by decide +kernel
  refine ⟨hcheck, hread, fun h => ?_⟩
  obtain ⟨base, -, -, hbase, -, -, hleads, -⟩ := h none "info"
  rw [hbase] at hread
  have hport : base.effectivePort = 80 := (Prod.mk.inj (Option.some.inj hread)).2
  exact absurd (hport.symm.trans hleads.port) (by decide)

end Config

end TrafficWatch
