import TrafficWatch.Endpoint
import TrafficWatch.Proofs.Url.Boundaries
import TrafficWatch.Proofs.Url.FormCoding

/-!
The parameters of the streams. What stands in front of the query of an address has no mark that could
begin a query or a fragment, and what the query is made of has none either: so the parameters are read
off the address as they were put into it, whatever their texts are.
-/

namespace TrafficWatch

namespace Url

/-- What stands between the first question mark of an address and its fragment. -/
def queryOf (url : String) : Option (List Char) :=
  (splitAtMark '?' (splitAtMark '#' url.toList).1).2

/-- The pairs that the query of an address is read as. -/
def parameters? (url : String) : Option (List (String × String)) :=
  (queryOf url).map fun q => Form.parse (String.ofList q)

/-- Neither a query nor a fragment begins in a text. -/
def Unmarked (cs : List Char) : Prop := ∀ c ∈ cs, c ≠ '?' ∧ c ≠ '#'

instance (cs : List Char) : Decidable (Unmarked cs) :=
  List.decidableBAll (fun c => c ≠ '?' ∧ c ≠ '#') cs

variable {cs ds : List Char} {a : Address} {scheme : Scheme}

theorem Unmarked.append (h : Unmarked cs) (h' : Unmarked ds) : Unmarked (cs ++ ds) :=
  List.forall_mem_append.mpr ⟨h, h'⟩

theorem Unmarked.cons {c : Char} (hc : c ≠ '?' ∧ c ≠ '#') (h : Unmarked cs) : Unmarked (c :: cs) :=
  List.forall_mem_cons.mpr ⟨hc, h⟩

theorem Unmarked.intercalate {sep : String} {texts : List String} (hsep : Unmarked sep.toList)
    (h : ∀ s ∈ texts, Unmarked s.toList) : Unmarked (sep.intercalate texts).toList := by
  intro c hc
  rw [String.toList_intercalate] at hc
  obtain ⟨part, hpart, hc⟩ := List.mem_flatten.mp hc
  rcases eq_or_mem_of_mem_intersperse hpart with rfl | hpart
  · exact hsep c hc
  · obtain ⟨s, hs, rfl⟩ := List.mem_map.mp hpart
    exact h s hs c hc

theorem unmarked_percentEncode {set : Char → Bool} (hquery : set '?' = true) (hhash : set '#' = true)
    (cs : List Char) : Unmarked (percentEncode set cs) := fun c hc =>
  ⟨fun h => not_mem_percentEncode hquery (by decide) (by decide) cs (h ▸ hc),
    fun h => not_mem_percentEncode hhash (by decide) (by decide) cs (h ▸ hc)⟩

theorem unmarked_of_isDigit (h : ∀ c ∈ cs, c.isDigit = true) : Unmarked cs := fun c hc => by
  refine ⟨?_, ?_⟩ <;> rintro rfl <;> exact absurd (h _ hc) (by decide)

theorem unmarked_toString (n : Nat) : Unmarked (toString n).toList := by
  have hlist : (toString n).toList = Nat.toDigits 10 n := Nat.toList_repr
  rw [hlist]
  exact unmarked_of_isDigit fun _ => Decimal.isDigit_of_mem_toDigits

theorem digitChar_ne {n : Nat} (hn : n < 16) : n.digitChar ≠ '?' ∧ n.digitChar ≠ '#' := by
  interval_cases n <;> decide

theorem unmarked_hex (n : Nat) : Unmarked (Ipv6.hex n).toList := by
  rw [Ipv6.hex, String.toList_ofList]
  induction n using Nat.strongRecOn with
  | ind n ih =>
    by_cases hn : n < 16
    · rw [Nat.toDigits_of_lt_base hn]
      exact .cons (digitChar_ne hn) nofun
    · rw [Nat.toDigits_of_base_le (by decide) (Nat.le_of_not_lt hn)]
      exact (ih (n / 16) (by omega)).append (.cons (digitChar_ne (Nat.mod_lt n (by decide))) nofun)

/-! The parts of an address that could be read. -/

theorem unmarked_domain {s : String} {name : List Char} (h : Domain.toAscii s = some name) :
    Unmarked name := by
  obtain ⟨mapped, -, h⟩ := Option.bind_eq_some_iff.mp h
  obtain ⟨labels, -, h⟩ := Option.bind_eq_some_iff.mp h
  dsimp only at h
  split at h
  · cases h
  · next hallowed =>
    obtain rfl := Option.some.inj h
    rw [Bool.or_eq_true, not_or, Bool.not_eq_true, List.any_eq_false] at hallowed
    intro c hc
    constructor <;> rintro rfl <;> exact hallowed.1 _ hc (by decide)

theorem unmarked_v4 (address : Ipv4) : Unmarked address.text.toList := by
  refine .intercalate (by decide) fun s hs => ?_
  obtain ⟨n, -, rfl⟩ := List.mem_map.mp hs
  exact unmarked_toString n

theorem unmarked_v6 (address : Ipv6) : Unmarked address.text.toList := by
  have hgroups (gs : List Nat) : Unmarked (":".intercalate (gs.map Ipv6.hex)).toList := by
    refine .intercalate (by decide) fun s hs => ?_
    obtain ⟨n, -, rfl⟩ := List.mem_map.mp hs
    exact unmarked_hex n
  unfold Ipv6.text
  dsimp only
  split
  · exact hgroups _
  · rw [String.toList_append, String.toList_append]
    exact ((hgroups _).append (by decide)).append (hgroups _)

theorem unmarked_host {host : Host} (h : parseHost cs = .ok host) : Unmarked host.text := by
  cases host with
  | v4 address => exact unmarked_v4 address
  | v6 address => exact (((unmarked_v6 address).cons (by decide)).append (by decide))
  | domain name =>
    unfold parseHost at h
    split at h
    · cases h
    · split at h
      · split at h <;> cases h
      · cases h
    · split at h
      · cases h
      · cases h
      · next name' hname =>
        split at h
        · split at h <;> cases h
        · obtain ⟨s, -, hascii⟩ := Option.bind_eq_some_iff.mp hname
          cases h
          exact unmarked_domain hascii

theorem unmarked_resolveSegments {done : List (List Char)} (segments : List (List Char))
    (h : ∀ s ∈ done, Unmarked s) : ∀ s ∈ resolveSegments done segments, Unmarked s := by
  have hclosing (rest : List (List Char)) : ∀ s ∈ if rest.isEmpty then [[]] else [], Unmarked s := by
    split
    · exact List.forall_mem_singleton.mpr nofun
    · exact nofun
  induction segments generalizing done with
  | nil => exact h
  | cons w rest ih =>
    rw [resolveSegments]
    split
    · exact ih (List.forall_mem_append.mpr
        ⟨fun s hs => h s ((List.dropLast_sublist done).subset hs), hclosing rest⟩)
    split
    · exact ih (List.forall_mem_append.mpr ⟨h, hclosing rest⟩)
    · exact ih (List.forall_mem_append.mpr
        ⟨h, List.forall_mem_singleton.mpr (unmarked_percentEncode (by decide) (by decide) w)⟩)

/-- No mark stands in front of the query of an address that could be read. -/
theorem unmarked_front {s : String} (h : parse scheme s = .ok a) :
    Unmarked (a.scheme.name ++ "://").toList ∧ Unmarked (a.authority ++ a.pathText) := by
  obtain ⟨hhost, -, -, hname, hpassword, hpath, -⟩ := parts_of_parse h
  have husername : Unmarked a.username := hname ▸ unmarked_percentEncode (by decide) (by decide) _
  have hsecret : Unmarked a.password := hpassword ▸ unmarked_percentEncode (by decide) (by decide) _
  refine ⟨by cases a.scheme <;> decide, .append (.append (.append ?_ (unmarked_host hhost)) ?_) ?_⟩
  · unfold Address.userinfo
    split
    · exact nofun
    · refine (husername.append ?_).append (by decide)
      split
      · exact nofun
      · exact hsecret.cons (by decide)
  · split
    · exact (unmarked_toString _).cons (by decide)
    · exact nofun
  · intro c hc
    obtain ⟨w, hw, hc⟩ := List.mem_flatMap.mp hc
    rw [hpath] at hw
    have hnone : ∀ s ∈ ([] : List (List Char)), Unmarked s := nofun
    exact (unmarked_resolveSegments _ hnone w hw).cons (by decide) c hc

theorem splitAtMark_append {mark : Char} (h : mark ∉ cs) (ds : List Char) :
    splitAtMark mark (cs ++ mark :: ds) = (cs, some ds) := by
  have hall : ∀ c ∈ cs, (c != mark) = true := fun c hc => bne_iff_ne.mpr fun hm => h (hm ▸ hc)
  rw [splitAtMark, List.takeWhile_append_of_pos hall, List.dropWhile_append_of_pos hall,
    List.takeWhile_cons_of_neg (by simp), List.dropWhile_cons_of_neg (by simp), List.append_nil]

/-- The query is read off the text of an address. -/
theorem queryOf_text {q : List Char} (hscheme : Unmarked (a.scheme.name ++ "://").toList)
    (hfront : Unmarked (a.authority ++ a.pathText)) (hquery : a.query = some q) (hq : '#' ∉ q) :
    queryOf a.text = some q := by
  let front := (a.scheme.name ++ "://").toList ++ (a.authority ++ a.pathText)
  have hmarks : Unmarked front := hscheme.append hfront
  have hbefore : '#' ∉ front ++ '?' :: q := by
    rw [List.mem_append, List.mem_cons]
    rintro (hm | hm | hm)
    · exact (hmarks _ hm).2 rfl
    · exact absurd hm (by decide)
    · exact hq hm
  have htext : a.text.toList = front ++ '?' :: q ++ a.fragment.elim [] ('#' :: ·) := by
    cases hfragment : a.fragment <;>
      simp only [Address.text, hquery, hfragment, front, String.toList_append,
        String.toList_ofList, List.append_assoc, Option.elim_none, Option.elim_some]
  have hsplit : (splitAtMark '#' a.text.toList).1 = front ++ '?' :: q := by
    rw [htext]
    cases a.fragment with
    | none => rw [Option.elim_none, List.append_nil, splitAtMark_of_not_mem hbefore]
    | some f => rw [Option.elim_some, splitAtMark_append hbefore]
  rw [queryOf, hsplit, splitAtMark_append fun hm => (hmarks _ hm).1 rfl]

/-- Without a question mark in its text an address has no query. -/
theorem query_of_not_mem {s : String} (h : parse scheme s = .ok a) (hs : '?' ∉ s.toList) :
    a.query = none := by
  obtain ⟨-, -, -, -, -, -, hquery, -⟩ := parts_of_parse h
  have hbefore : '?' ∉ (beforeFragment s).1 := fun hm => hs <|
    List.mem_of_mem_filter <| (List.dropWhile_sublist _).subset <|
      (List.drop_sublist _ _).subset <| (List.takeWhile_sublist _).subset hm
  rw [hquery, beforeQuery, splitAtMark_of_not_mem hbefore, Option.map_none]

namespace Form

theorem hash_not_mem_encode (s : String) : '#' ∉ encode s := fun hm =>
  not_mem_sent_encode (b := 35) (by decide) (by decide) (by decide) s
    (List.mem_flatMap.mpr ⟨'#', hm, by decide⟩)

theorem hash_not_mem_appendAll (ps : List (String × String)) {query : List Char}
    (hquery : '#' ∉ query) : '#' ∉ appendAll query ps := by
  induction ps generalizing query with
  | nil => exact hquery
  | cons p ps ih =>
    have hpair : '#' ∉ encodePair p := by
      rw [encodePair, List.mem_append, List.mem_cons]
      rintro (hm | hm | hm)
      · exact hash_not_mem_encode _ hm
      · exact absurd hm (by decide)
      · exact hash_not_mem_encode _ hm
    refine ih ?_
    unfold append
    split
    · exact hpair
    · rw [List.mem_append, List.mem_cons]
      rintro (hm | hm | hm)
      · exact hquery hm
      · exact absurd hm (by decide)
      · exact hpair hm

end Form

/-- Pairs that are put on an address without a query are read off its text. -/
theorem parameters_withPairs {s : String} (h : parse scheme s = .ok a) (hs : '?' ∉ s.toList)
    (ps : List (String × String)) : parameters? (a.withPairs ps).text = some ps := by
  have hquery : (a.withPairs ps).query = some (Form.appendAll [] ps) := by
    rw [Address.withPairs, query_of_not_mem h hs, Option.getD_none]
  obtain ⟨hscheme, hfront⟩ := unmarked_front h
  have htext : queryOf (a.withPairs ps).text = some (Form.appendAll [] ps) :=
    queryOf_text hscheme hfront hquery (Form.hash_not_mem_appendAll ps nofun)
  rw [parameters?, htext, Option.map_some, Form.parse_appendAll]

end Url

namespace Endpoint

open Url

variable {e : Endpoint}

theorem not_mem_authority (hhost : '?' ∉ e.host.toList) : '?' ∉ e.authority.toList := by
  have hport : '?' ∉ (toString e.port.toNat).toList := fun hm => (unmarked_toString _ _ hm).1 rfl
  have hcolon : '?' ∉ ":".toList := by decide
  unfold authority
  dsimp only
  split
  · simp only [String.toList_append, List.mem_append, not_or]
    exact ⟨⟨⟨⟨by decide, hhost⟩, by decide⟩, hcolon⟩, hport⟩
  · simp only [String.toList_append, List.mem_append, not_or]
    exact ⟨⟨hhost, hcolon⟩, hport⟩

theorem parameters_address {path : String} {a : Address} (hhost : '?' ∉ e.host.toList)
    (hpath : '?' ∉ path.toList) (h : e.address scheme path = .ok a) (ps : List (String × String)) :
    parameters? (a.withPairs ps).text = some ps := by
  refine parameters_withPairs h ?_ ps
  simp only [String.toList_append, List.mem_append, not_or]
  exact ⟨⟨by decide, not_mem_authority hhost⟩, hpath⟩

/-- The parameters of both streams are those that were asked for, whatever secret and level they are
made with. -/
theorem parameters_read (hhost : '?' ∉ e.host.toList) :
    (∀ interval a, e.connections interval = .ok a → parameters? a.text = some
      (("token", e.secret) :: (interval.map fun n => ("interval", toString n.toNat)).toList)) ∧
    ∀ level a, e.logs level = .ok a →
      parameters? a.text = some [("level", level), ("token", e.secret)] := by
  refine ⟨fun interval a h => ?_, fun level a h => ?_⟩
  · obtain ⟨base, hbase, h⟩ := bind_eq_ok.mp h
    obtain rfl := Except.ok.inj h
    rw [parameters_address hhost (by decide) hbase]
    cases interval <;> rfl
  · obtain ⟨base, hbase, h⟩ := bind_eq_ok.mp h
    obtain rfl := Except.ok.inj h
    exact parameters_address hhost (by decide) hbase _

/-- A host that begins a fragment, and a secret that has all marks of a query. -/
def marked : Endpoint := { host := "[::1]#x", port := 9090, secret := "a&b=c +%41#?ü" }

theorem parameters_read_of_marked :
    '?' ∉ marked.host.toList ∧
      (∃ a, marked.connections (some 500) = .ok a ∧ a.text =
        "ws://[::1]/?token=a%26b%3Dc+%2B%2541%23%3F%C3%BC&interval=500#x:9090/api/connections" ∧
        parameters? a.text = some [("token", "a&b=c +%41#?ü"), ("interval", "500")]) ∧
      ∃ a, marked.logs "info&token=x" = .ok a ∧
        parameters? a.text = some [("level", "info&token=x"), ("token", "a&b=c +%41#?ü")] := by
  have hhost : '?' ∉ marked.host.toList := by decide
  obtain ⟨hconnections, hlogs⟩ := parameters_read hhost
  have htext : (marked.connections (some 500)).toOption.map (·.text) = some
      "ws://[::1]/?token=a%26b%3Dc+%2B%2541%23%3F%C3%BC&interval=500#x:9090/api/connections" := by
    decide +kernel
  have hread : (marked.logs "info&token=x").isOk = true := by decide +kernel
  refine ⟨hhost, ?_, ?_⟩
  · cases hc : marked.connections (some 500) with
    | error err =>
      rw [hc] at htext
      cases htext
    | ok a =>
      rw [hc] at htext
      exact ⟨a, rfl, Option.some.inj htext, hconnections _ a hc⟩
  · cases hl : marked.logs "info&token=x" with
    | error err =>
      rw [hl] at hread
      cases hread
    | ok a => exact ⟨a, rfl, hlogs _ a hl⟩

end Endpoint

end TrafficWatch
