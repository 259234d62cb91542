import Mathlib.Data.List.TakeWhile
import TrafficWatch.Proofs.Fallible
import TrafficWatch.Proofs.Url.Segment

/-!
The parts that an address is put together from, and what decides whether it can be read: the host and
the port in front of its path, and neither the path nor the scheme.
-/

namespace TrafficWatch.Url

open Address

/-- What stands between the first slashes and the path. -/
def authorityOf (s : String) : List Char :=
  ((kept s).dropWhile isSlash).takeWhile (! endsAuthority ·)

/-- The host and the port of an address, as they are written. -/
def hostAndPort (s : String) : List Char × List Char :=
  splitHost false (splitUserinfo (authorityOf s)).2

/-- What follows the authority of an address. -/
def behindAuthority (s : String) : List Char :=
  ((kept s).dropWhile isSlash).drop (authorityOf s).length

def userinfoOf (s : String) : List Char × List Char :=
  parseUserinfo ((splitUserinfo (authorityOf s)).1.getD [])

def beforeFragment (s : String) : List Char × Option (List Char) :=
  splitAtMark '#' (behindAuthority s)

def beforeQuery (s : String) : List Char × Option (List Char) :=
  splitAtMark '?' (beforeFragment s).1

theorem parse_eq (scheme : Scheme) (s : String) : parse scheme s = (do
    let host ← parseHost (hostAndPort s).1
    let port ← parsePort scheme (hostAndPort s).2
    pure {
      scheme, host, port
      username := (userinfoOf s).1
      password := (userinfoOf s).2
      path := parsePath (beforeQuery s).1
      query := (beforeQuery s).2.map (percentEncode querySet)
      fragment := (beforeFragment s).2.map (percentEncode fragmentSet) }) := by
  unfold parse hostAndPort userinfoOf beforeQuery beforeFragment behindAuthority authorityOf kept
  dsimp only

/-- What an address is made of that could be read. -/
theorem parts_of_parse {scheme : Scheme} {s : String} {a : Address} (h : parse scheme s = .ok a) :
    parseHost (hostAndPort s).1 = .ok a.host ∧ parsePort scheme (hostAndPort s).2 = .ok a.port ∧
      a.scheme = scheme ∧ a.username = (userinfoOf s).1 ∧ a.password = (userinfoOf s).2 ∧
      a.path = parsePath (beforeQuery s).1 ∧
      a.query = (beforeQuery s).2.map (percentEncode querySet) ∧
      a.fragment = (beforeFragment s).2.map (percentEncode fragmentSet) := by
  rw [parse_eq] at h
  obtain ⟨host, hhost, h⟩ := bind_eq_ok.mp h
  obtain ⟨port, hport, h⟩ := bind_eq_ok.mp h
  obtain rfl := Except.ok.inj h
  dsimp only
  exact ⟨hhost, hport, rfl, rfl, rfl, rfl, rfl, rfl⟩

theorem parse_eq_ok {scheme : Scheme} {s : String} {host : Host} :
    (∃ a, parse scheme s = .ok a ∧ a.host = host) ↔
      parseHost (hostAndPort s).1 = .ok host ∧ ∃ port, parsePort scheme (hostAndPort s).2 = .ok port := by
  constructor
  · rintro ⟨a, h, rfl⟩
    obtain ⟨hhost, hport, -⟩ := parts_of_parse h
    exact ⟨hhost, a.port, hport⟩
  · rintro ⟨hhost, port, hport⟩
    rw [parse_eq]
    exact ⟨_, bind_eq_ok.mpr ⟨host, hhost, bind_eq_ok.mpr ⟨port, hport, rfl⟩⟩, rfl⟩

/-- The port is good under one scheme if it is under another. -/
theorem exists_parsePort {scheme scheme' : Scheme} {s : List Char}
    (h : ∃ port, parsePort scheme s = .ok port) : ∃ port, parsePort scheme' s = .ok port := by
  obtain ⟨port, h⟩ := h
  unfold parsePort at h ⊢
  split
  · exact ⟨none, rfl⟩
  dsimp only at h ⊢
  split
  · next hdigits =>
    rw [if_pos hdigits] at h
    cases h
  next hdigits =>
  rw [if_neg hdigits] at h
  split
  · next hbig =>
    rw [if_pos hbig] at h
    cases h
  split
  · exact ⟨_, rfl⟩
  · exact ⟨_, rfl⟩

theorem kept_append (s t : String) : kept (s ++ t) = kept s ++ kept t := by
  simp [kept]

/-- The path has no part in the authority. -/
theorem authorityOf_eq {authority path : String} {rest : List Char}
    (hauthority : ∃ c ∈ kept authority, isSlash c = false) (hpath : kept path = '/' :: rest) :
    authorityOf ("//" ++ authority ++ path) =
      ((kept authority).dropWhile isSlash).takeWhile (! endsAuthority ·) := by
  have hfront : kept "//" = ['/', '/'] := rfl
  have hne : (kept authority).dropWhile isSlash ≠ [] := fun h => by
    obtain ⟨c, hc, hslash⟩ := hauthority
    exact absurd (List.dropWhile_eq_nil_iff.mp h c hc) (by simp [hslash])
  have hdrop : (kept ("//" ++ authority ++ path)).dropWhile isSlash =
      (kept authority).dropWhile isSlash ++ '/' :: rest := by
    rw [kept_append, kept_append, hfront, hpath, List.append_assoc, List.cons_append,
      List.cons_append, List.nil_append, List.dropWhile_cons_of_pos rfl,
      List.dropWhile_cons_of_pos rfl, List.dropWhile_append, if_neg (by simpa using hne)]
  rw [authorityOf, hdrop, List.takeWhile_append]
  split
  · next hall =>
    have hself := (List.takeWhile_prefix _).eq_of_length hall
    rw [List.takeWhile_cons_of_neg (by decide), List.append_nil, hself]
  · rfl

/-- An address that can be read under one scheme and path can be read under all. -/
theorem exists_parse {scheme scheme' : Scheme} {authority path path' : String}
    {rest rest' : List Char} (hauthority : ∃ c ∈ kept authority, isSlash c = false)
    (hpath : kept path = '/' :: rest) (hpath' : kept path' = '/' :: rest') {a : Address}
    (h : parse scheme ("//" ++ authority ++ path) = .ok a) :
    ∃ a', parse scheme' ("//" ++ authority ++ path') = .ok a' ∧ a'.host = a.host := by
  have hsame : hostAndPort ("//" ++ authority ++ path') = hostAndPort ("//" ++ authority ++ path) := by
    unfold hostAndPort
    rw [authorityOf_eq hauthority hpath, authorityOf_eq hauthority hpath']
  obtain ⟨hhost, hport⟩ := parse_eq_ok.mp ⟨a, h, rfl⟩
  rw [← hsame] at hhost hport
  exact parse_eq_ok.mpr ⟨hhost, exists_parsePort hport⟩

end TrafficWatch.Url
