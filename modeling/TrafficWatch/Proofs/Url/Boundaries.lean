import Mathlib.Data.List.Induction
import TrafficWatch.Proofs.Decimal.Digits
import TrafficWatch.Proofs.Url.Authority
import TrafficWatch.Proofs.Url.HostNames

/-!
Where the parts of an address end. A text that names a host, a colon, digits and a path are read as
these parts if nothing in the text ends the host before its time; if something does, then what comes
after it is read as a part of the path, the query or the fragment.
-/

namespace TrafficWatch.Url

open Address

variable {scheme : Scheme} {s : String} {a : Address} {host : Host} {port : Option Nat}

/-! A host and a port. -/

theorem dropWhile_append_cons {α : Type} {p : α → Bool} {x : α} (hx : p x = false) (l r : List α) :
    (l ++ x :: r).dropWhile p = l.dropWhile p ++ x :: r := by
  rw [List.dropWhile_append, List.dropWhile_cons_of_neg (by simp [hx])]
  split
  · next hnil => rw [List.isEmpty_iff.mp hnil, List.nil_append]
  · rfl

theorem kept_digits (n : Nat) : kept (toString n) = Nat.toDigits 10 n := by
  have hlist : (toString n).toList = Nat.toDigits 10 n := Nat.toList_repr
  have hwhole : KeptWhole (toString n) := by
    intro c hc hspace
    have hdigit := Decimal.isDigit_of_mem_toDigits (hlist ▸ hc)
    simp only [List.mem_cons, List.not_mem_nil, or_false] at hspace
    rcases hspace with rfl | rfl | rfl <;> exact absurd hdigit (by decide)
  rw [kept_eq_toList.mpr hwhole, hlist]

theorem decimal_toDigits (n : Nat) : Ipv4.decimal (Nat.toDigits 10 n) = n :=
  Nat.ofDigitChars_ten_toDigits

theorem splitHost_append (inside : Bool) (s : List Char) :
    (splitHost inside s).1 ++ (splitHost inside s).2 = s := by
  induction s generalizing inside with
  | nil => rfl
  | cons c s ih =>
    rw [splitHost]
    split
    · rfl
    · exact congrArg (c :: ·) (ih _)

theorem splitHost_rest (inside : Bool) (s : List Char) :
    (splitHost inside s).2 = [] ∨ ∃ t, (splitHost inside s).2 = ':' :: t := by
  induction s generalizing inside with
  | nil => exact .inl rfl
  | cons c s ih =>
    rw [splitHost]
    split
    · next hc =>
      refine .inr ⟨s, ?_⟩
      simp only [Bool.and_eq_true, beq_iff_eq] at hc
      rw [hc.1]
    · exact ih _

theorem parsePort_cons {c : Char} {ds : List Char} : parsePort scheme (c :: ds) = .ok port ↔
    (∀ d ∈ ds, d.isDigit = true) ∧ Ipv4.decimal ds ≤ 65535 ∧
      port = if ds.isEmpty || Ipv4.decimal ds = scheme.defaultPort then none
        else some (Ipv4.decimal ds) := by
  unfold parsePort
  dsimp only
  split
  · next h =>
    have hall : ¬ ∀ d ∈ ds, d.isDigit = true := by simpa using h
    exact ⟨nofun, fun h => absurd h.1 hall⟩
  next h =>
  have hall : ∀ d ∈ ds, d.isDigit = true := by simpa using h
  split
  · next hbig => exact ⟨nofun, fun h => absurd hbig (Nat.not_lt.mpr h.2.1)⟩
  next hbig =>
  split
  all_goals
    exact ⟨fun h => ⟨hall, Nat.not_lt.mp hbig, (Except.ok.inj h).symm⟩,
      fun h => congrArg _ h.2.2.symm⟩

theorem colon_not_mem_digits {ds : List Char} (h : ∀ d ∈ ds, d.isDigit = true) : ':' ∉ ds :=
  fun hm => absurd (h ':' hm) (by decide)

/-- The last colon of a text is in one place. -/
theorem append_colon_inj {h h' ds ds' : List Char} (hds : ':' ∉ ds) (hds' : ':' ∉ ds')
    (heq : h ++ ':' :: ds = h' ++ ':' :: ds') : h = h' ∧ ds = ds' := by
  rcases List.append_eq_append_iff.mp heq with ⟨as, rfl, has⟩ | ⟨bs, rfl, hbs⟩
  · cases as with
    | nil => exact ⟨(List.append_nil h).symm, (List.cons.inj has).2⟩
    | cons a as =>
      have hmem : ':' ∈ ds := by
        rw [(List.cons.inj has).2]
        exact List.mem_append_right _ List.mem_cons_self
      exact absurd hmem hds
  · cases bs with
    | nil => exact ⟨List.append_nil h', (List.cons.inj hbs).2.symm⟩
    | cons b bs =>
      have hmem : ':' ∈ ds' := by
        rw [(List.cons.inj hbs).2]
        exact List.mem_append_right _ List.mem_cons_self
      exact absurd hmem hds'

/-- Where a host and a port can be read, the host is all that stands before the last colon. -/
theorem splitHost_of_ok {h ds : List Char} (hne : ds ≠ []) (hds : ∀ d ∈ ds, d.isDigit = true)
    (hhost : parseHost (splitHost false (h ++ ':' :: ds)).1 = .ok host)
    (hport : parsePort scheme (splitHost false (h ++ ':' :: ds)).2 = .ok port) :
    splitHost false (h ++ ':' :: ds) = (h, ':' :: ds) := by
  have happend := splitHost_append false (h ++ ':' :: ds)
  rcases splitHost_rest false (h ++ ':' :: ds) with hrest | ⟨t, hrest⟩
  · -- the colon would be in brackets that are never closed
    rw [hrest, List.append_nil] at happend
    rw [happend] at hhost
    obtain ⟨t, ht, hlast⟩ := exists_brackets hhost (List.mem_append_right _ List.mem_cons_self)
    obtain ⟨ds, d, rfl⟩ := (List.eq_nil_or_concat ds).resolve_left hne
    have hd : (h ++ ':' :: ds.concat d).getLast? = some d := by
      rw [List.concat_eq_append, ← List.cons_append, ← List.append_assoc, List.getLast?_concat]
    rw [ht, List.getLast?_cons, hlast] at hd
    have hdigit := hds d (by simp)
    rw [← Option.some.inj hd] at hdigit
    exact absurd hdigit (by decide)
  · rw [hrest] at hport happend
    have ht := (parsePort_cons.mp hport).1
    obtain ⟨hhead, htail⟩ := append_colon_inj (colon_not_mem_digits ht) (colon_not_mem_digits hds)
      happend
    exact Prod.ext hhead (hrest.trans (by rw [htail]))

/-! What may stand in front of a host. -/

theorem splitUserinfo_of_not_mem {s : List Char} (h : '@' ∉ s) : splitUserinfo s = (none, s) := by
  simp [splitUserinfo, h]

theorem splitUserinfo_append (user : List Char) {rest : List Char} (h : '@' ∉ rest) :
    splitUserinfo (user ++ '@' :: rest) = (some user, rest) := by
  have hrest : ∀ c ∈ rest.reverse, (c != '@') = true := fun c hc =>
    bne_iff_ne.mpr fun hat => h (hat ▸ List.mem_reverse.mp hc)
  have hhost : ((user ++ '@' :: rest).reverse.takeWhile (· != '@')).reverse = rest := by
    rw [List.reverse_append, List.reverse_cons, List.append_assoc,
      List.takeWhile_append_of_pos hrest, List.singleton_append,
      List.takeWhile_cons_of_neg (by decide), List.append_nil, List.reverse_reverse]
  have hmem : (user ++ '@' :: rest).contains '@' = true := by simp
  rw [splitUserinfo, if_pos hmem]
  dsimp only
  have hlen : (user ++ '@' :: rest).length - rest.length - 1 = user.length := by
    rw [List.length_append, List.length_cons]
    omega
  rw [hhost, hlen, List.take_left]

/-- Either there is no `@`, or the last one is in one place. -/
theorem splitUserinfo_cases (s : List Char) : ('@' ∉ s ∧ splitUserinfo s = (none, s)) ∨
    ∃ user rest, s = user ++ '@' :: rest ∧ '@' ∉ rest ∧ splitUserinfo s = (some user, rest) := by
  by_cases h : '@' ∈ s
  · obtain ⟨as, bs, heq, has⟩ := List.eq_append_cons_of_mem (List.mem_reverse.mpr h)
    have hs : s = bs.reverse ++ '@' :: as.reverse := by
      rw [← List.reverse_reverse s, heq]
      simp
    have hrest : '@' ∉ as.reverse := fun hm => has (List.mem_reverse.mp hm)
    exact .inr ⟨bs.reverse, as.reverse, hs, hrest, hs ▸ splitUserinfo_append _ hrest⟩
  · exact .inl ⟨h, splitUserinfo_of_not_mem h⟩

theorem percentEncode_ne_nil {set : Char → Bool} {s : List Char} (h : s ≠ []) :
    percentEncode set s ≠ [] := by
  obtain ⟨c, s, rfl⟩ := List.exists_cons_of_ne_nil h
  rw [percentEncode, List.flatMap_cons]
  refine List.append_ne_nil_of_left_ne_nil ?_ _
  split
  · obtain ⟨b, bs, hb⟩ := List.exists_cons_of_ne_nil (String.utf8EncodeChar_ne_nil (c := c))
    rw [percentChar, hb]
    exact List.cons_ne_nil _ _
  · exact List.cons_ne_nil _ _

/-- One `@` in front of a host adds nothing to it. -/
def afterAt : List Char → List Char
  | '@' :: s => s
  | s => s

theorem afterAt_cons_of_ne {c : Char} (hc : c ≠ '@') (s : List Char) :
    afterAt (c :: s) = c :: s := by
  unfold afterAt
  split
  · next h => exact absurd (List.cons.inj h).1 hc
  · rfl

theorem mem_afterAt (c : Char) {s : List Char} (h : '@' ∈ s) : '@' ∈ afterAt (c :: s) := by
  by_cases hc : c = '@'
  · rw [hc]
    exact h
  · rw [afterAt_cons_of_ne hc]
    exact List.mem_cons_of_mem c h

theorem forall_mem_afterAt {p : Char → Prop} (hat : p '@') {s : List Char} :
    (∀ c ∈ afterAt s, p c) ↔ ∀ c ∈ s, p c := by
  cases s with
  | nil => exact Iff.rfl
  | cons c s =>
    by_cases hc : c = '@'
    · rw [hc, List.forall_mem_cons]
      exact ⟨fun h => ⟨hat, h⟩, fun h => h.2⟩
    · rw [afterAt_cons_of_ne hc]

theorem splitUserinfo_eq_afterAt {s : List Char} (h : '@' ∉ afterAt s) :
    (splitUserinfo s).1.getD [] = [] ∧ (splitUserinfo s).2 = afterAt s := by
  rcases splitUserinfo_cases s with ⟨hat, hsplit⟩ | ⟨user, rest, rfl, -, hsplit⟩
  · have hself : afterAt s = s := by
      cases s with
      | nil => rfl
      | cons c s => exact afterAt_cons_of_ne (fun hc => hat (hc ▸ List.mem_cons_self)) s
    rw [hsplit, hself]
    exact ⟨rfl, rfl⟩
  · cases user with
    | nil =>
      rw [hsplit]
      exact ⟨rfl, rfl⟩
    | cons c user =>
      exact absurd (mem_afterAt c (List.mem_append_right user List.mem_cons_self)) h

/-- Nothing is read in front of a host only if nothing but an `@` stands there. -/
theorem not_mem_afterAt {s : List Char} (hcolon : s.head? ≠ some ':')
    (h : (parseUserinfo ((splitUserinfo s).1.getD [])).1 = []) : '@' ∉ afterAt s := by
  rcases splitUserinfo_cases s with ⟨hat, -⟩ | ⟨user, rest, rfl, hat, hsplit⟩
  · cases s with
    | nil => exact hat
    | cons c s =>
      rw [afterAt_cons_of_ne (fun hc => hat (hc ▸ List.mem_cons_self))]
      exact hat
  · cases user with
    | nil => exact hat
    | cons c user =>
      have hc : (c != ':') = true := bne_iff_ne.mpr fun hc => hcolon (congrArg some hc)
      have hname : (c :: user).takeWhile (· != ':') = c :: user.takeWhile (· != ':') :=
        List.takeWhile_cons_of_pos hc
      rw [hsplit, parseUserinfo, Option.getD_some, hname] at h
      exact absurd h (percentEncode_ne_nil (List.cons_ne_nil _ _))

/-- What follows a text without an `@` has no part in what stands in front of a host. -/
theorem splitUserinfo_append_right (s : List Char) {t : List Char} (ht : '@' ∉ t) :
    splitUserinfo (s ++ t) = ((splitUserinfo s).1, (splitUserinfo s).2 ++ t) := by
  rcases splitUserinfo_cases s with ⟨hat, hsplit⟩ | ⟨user, rest, rfl, hat, hsplit⟩
  · have hnone : '@' ∉ s ++ t := fun hm => (List.mem_append.mp hm).elim hat ht
    rw [hsplit, splitUserinfo_of_not_mem hnone]
  · have hnone : '@' ∉ rest ++ t := fun hm => (List.mem_append.mp hm).elim hat ht
    rw [hsplit, List.append_assoc, List.cons_append, splitUserinfo_append user hnone]

/-! What becomes of a path that begins before its time. -/

theorem exists_last_segment (t : List Char) : ∃ segments last,
    (∀ c ∈ last, isSlash c = false) ∧
      ∀ rest, splitSegments (t ++ rest) = segments ++ splitSegments (last ++ rest) := by
  induction t using List.reverseRecOn with
  | nil => exact ⟨[], [], nofun, fun _ => rfl⟩
  | append_singleton t c ih =>
    obtain ⟨segments, last, hlast, hsplit⟩ := ih
    cases hc : isSlash c with
    | true =>
      refine ⟨splitSegments t, [], nofun, fun rest => ?_⟩
      rw [List.append_assoc]
      exact List.splitOnP_append_cons t rest hc
    | false =>
      refine ⟨segments, last ++ [c], ?_, fun rest => ?_⟩
      · simpa [or_imp, forall_and, hc] using hlast
      · rw [List.append_assoc, hsplit, List.append_assoc]

theorem not_contains_of_colon {forms : List String}
    (hforms : ∀ form ∈ forms.map String.toList, ':' ∉ form) {w : List Char} (h : ':' ∈ w) :
    forms.contains (String.ofList (w.map Char.toLower)) = false := by
  rw [Bool.eq_false_iff]
  intro hmem
  exact hforms _ (lowered_mem hmem) (List.mem_map.mpr ⟨':', h, rfl⟩)

theorem resolveSegments_cons_of_plain {w : List Char} (hdouble : isDoubleDot w = false)
    (hdot : isDot w = false) (done rest : List (List Char)) :
    resolveSegments done (w :: rest) = resolveSegments (done ++ [percentEncode pathSet w]) rest := by
  simp [resolveSegments, hdouble, hdot]

theorem exists_resolveSegments (segments done rest : List (List Char)) :
    ∃ done', resolveSegments done (segments ++ rest) = resolveSegments done' rest := by
  induction segments generalizing done with
  | nil => exact ⟨done, rfl⟩
  | cons w segments ih =>
    rw [List.cons_append, resolveSegments]
    split
    · exact ih _
    split
    · exact ih _
    · exact ih _

/-- A path with a colon before its last slash has more than an empty segment. -/
theorem parsePath_ne {x : Char} (hx : isSlash x = true) (t : List Char) {ds : List Char}
    (hds : ∀ c ∈ ds, isSlash c = false) :
    parsePath (x :: (t ++ ':' :: (ds ++ ['/']))) ≠ [[]] := by
  obtain ⟨segments, last, hlast, hsplit⟩ := exists_last_segment t
  let w := last ++ ':' :: ds
  have hw : ∀ c ∈ w, isSlash c = false := by
    intro c hc
    rcases List.mem_append.mp hc with hc | hc
    · exact hlast c hc
    · exact (List.mem_cons.mp hc).elim (fun h => h ▸ rfl) (hds c)
  have hsegments : splitSegments (t ++ ':' :: (ds ++ ['/'])) = segments ++ [w, []] := by
    rw [hsplit, ← List.cons_append, ← List.append_assoc]
    exact congrArg (segments ++ ·) (List.splitOnP_append_cons_of_forall_mem hw '/' rfl [])
  have hcolon : ':' ∈ w := List.mem_append_right _ List.mem_cons_self
  obtain ⟨done, hdone⟩ := exists_resolveSegments segments [] [w, []]
  have hpath : parsePath (x :: (t ++ ':' :: (ds ++ ['/']))) =
      resolveSegments (done ++ [percentEncode pathSet w]) [[]] := by
    rw [parsePath]
    simp only [hx, if_true]
    rw [hsegments, hdone]
    exact resolveSegments_cons_of_plain (not_contains_of_colon (by decide) hcolon)
      (not_contains_of_colon (by decide) hcolon) done [[]]
  have hlast : resolveSegments (done ++ [percentEncode pathSet w]) [[]] =
      done ++ [percentEncode pathSet w] ++ [[]] :=
    resolveSegments_cons_of_plain (by decide) (by decide) _ []
  rw [hpath, hlast]
  intro h
  have hlen := congrArg List.length h
  simp at hlen

/-! The parts that are read off an address. -/

theorem splitAtMark_of_not_mem {mark : Char} {s : List Char} (h : mark ∉ s) :
    splitAtMark mark s = (s, none) := by
  have hall : ∀ c ∈ s, (c != mark) = true := fun c hc => bne_iff_ne.mpr fun hm => h (hm ▸ hc)
  have htake : s.takeWhile (· != mark) = s := List.takeWhile_eq_self_iff.mpr hall
  have hdrop : s.dropWhile (· != mark) = [] := List.dropWhile_eq_nil_iff.mpr hall
  rw [splitAtMark, htake, hdrop]

theorem not_mem_of_splitAtMark {mark : Char} {s : List Char} (h : (splitAtMark mark s).2 = none) :
    mark ∉ s := by
  intro hmem
  have hdrop : s.dropWhile (· != mark) = [] := by
    unfold splitAtMark at h
    dsimp only at h
    split at h
    · assumption
    · cases h
  have hmark := List.dropWhile_eq_nil_iff.mp hdrop mark hmem
  exact absurd rfl (bne_iff_ne.mp hmark)

/-- Where there is no mark, all that follows the authority is the path. -/
theorem splitAtMarks_iff (s : String) :
    (beforeQuery s).2 = none ∧ (beforeFragment s).2 = none ↔
      '?' ∉ behindAuthority s ∧ '#' ∉ behindAuthority s := by
  constructor
  · rintro ⟨hquery, hfragment⟩
    have hnone := not_mem_of_splitAtMark hfragment
    rw [beforeQuery, beforeFragment, splitAtMark_of_not_mem hnone] at hquery
    exact ⟨not_mem_of_splitAtMark hquery, hnone⟩
  · rintro ⟨hquery, hfragment⟩
    rw [beforeQuery, beforeFragment, splitAtMark_of_not_mem hfragment,
      splitAtMark_of_not_mem hquery]
    exact ⟨rfl, rfl⟩

theorem beforeQuery_of_not_mem {s : String} (hquery : '?' ∉ behindAuthority s)
    (hfragment : '#' ∉ behindAuthority s) : (beforeQuery s).1 = behindAuthority s := by
  rw [beforeQuery, beforeFragment, splitAtMark_of_not_mem hfragment, splitAtMark_of_not_mem hquery]

namespace Address

/-- An address that leads to a host, a port and a path, and says nothing else but a query. -/
structure LeadsTo (a : Address) (scheme : Scheme) (host : Host) (port : Nat)
    (path : List (List Char)) : Prop where
  scheme : a.scheme = scheme
  host : a.host = host
  port : a.effectivePort = port
  username : a.username = []
  password : a.password = []
  path : a.path = path
  fragment : a.fragment = none

theorem LeadsTo.withPairs {p : Nat} {path : List (List Char)} (h : a.LeadsTo scheme host p path)
    (pairs : List (String × String)) : (a.withPairs pairs).LeadsTo scheme host p path :=
  ⟨h.scheme, h.host, h.port, h.username, h.password, h.path, h.fragment⟩

end Address

/-- The authority ends at the first character that ends it. -/
theorem authorityOf_of_plain {front : List Char} {x : Char} {back : List Char}
    (hs : (kept s).dropWhile isSlash = front ++ x :: back)
    (hfront : ∀ c ∈ front, endsAuthority c = false) (hx : endsAuthority x = true) :
    authorityOf s = front ∧ behindAuthority s = x :: back := by
  have hall : ∀ c ∈ front, (! endsAuthority c) = true := fun c hc => by rw [hfront c hc]; rfl
  have hauthority : authorityOf s = front := by
    rw [authorityOf, hs, List.takeWhile_append_of_pos hall,
      List.takeWhile_cons_of_neg (by simp [hx]), List.append_nil]
  refine ⟨hauthority, ?_⟩
  rw [behindAuthority, hauthority, hs, List.drop_left]

theorem plain_of_isDigit {c : Char} (h : c.isDigit = true) :
    endsAuthority c = false ∧ c ≠ '@' := by
  have hne : ∀ x : Char, x.isDigit = false → c ≠ x := by
    rintro x hx rfl
    exact absurd h (by simp [hx])
  have hends : endsAuthority c = false := by
    simp [endsAuthority, isSlash, hne '/' (by decide), hne '\\' (by decide), hne '?' (by decide),
      hne '#' (by decide)]
  exact ⟨hends, hne '@' (by decide)⟩

theorem effectivePort_of_parsePort {ds : List Char} (hne : ds ≠ [])
    (h : parsePort a.scheme (':' :: ds) = .ok a.port) : a.effectivePort = Ipv4.decimal ds := by
  have hempty : ds.isEmpty = false := List.isEmpty_eq_false_iff.mpr hne
  rw [effectivePort, (parsePort_cons.mp h).2.2, hempty, Bool.false_or]
  split
  · next hdefault => exact (of_decide_eq_true hdefault).symm
  · rfl

section Written

variable {text ds rest : List Char}

theorem splitUserinfo_authorityOf
    (hs : (kept s).dropWhile isSlash = text ++ ':' :: (ds ++ '/' :: rest))
    (hds : ∀ d ∈ ds, d.isDigit = true) (htext : ∀ c ∈ text, endsAuthority c = false) :
    splitUserinfo (authorityOf s) = ((splitUserinfo text).1, (splitUserinfo text).2 ++ ':' :: ds) ∧
      behindAuthority s = '/' :: rest := by
  have hport : ∀ c ∈ ':' :: ds, endsAuthority c = false ∧ c ≠ '@' :=
    List.forall_mem_cons.mpr ⟨by decide, fun d hd => plain_of_isDigit (hds d hd)⟩
  have hfront : ∀ c ∈ text ++ ':' :: ds, endsAuthority c = false :=
    List.forall_mem_append.mpr ⟨htext, fun c hc => (hport c hc).1⟩
  have hat : '@' ∉ ':' :: ds := fun hm => (hport '@' hm).2 rfl
  rw [← List.cons_append, ← List.append_assoc] at hs
  obtain ⟨hauthority, hbehind⟩ := authorityOf_of_plain hs hfront (by decide)
  rw [hauthority]
  exact ⟨splitUserinfo_append_right text hat, hbehind⟩

/-- A text that names a host, a port and a path is read as these. -/
theorem leadsTo_of_plain (hs : (kept s).dropWhile isSlash = text ++ ':' :: (ds ++ '/' :: rest))
    (hne : ds ≠ []) (hds : ∀ d ∈ ds, d.isDigit = true) (hrest : '?' ∉ rest ∧ '#' ∉ rest)
    (hplain : ∀ c ∈ afterAt text, endsAuthority c = false ∧ c ≠ '@')
    (h : parse scheme s = .ok a) :
    a.LeadsTo scheme a.host (Ipv4.decimal ds) (parsePath ('/' :: rest)) ∧ a.query = none ∧
      parseHost (afterAt text) = .ok a.host := by
  obtain ⟨hhost, hport, rfl, hname, hpassword, hpath, hquery, hfragment⟩ := parts_of_parse h
  have htext : ∀ c ∈ text, endsAuthority c = false :=
    (forall_mem_afterAt (by decide)).mp fun c hc => (hplain c hc).1
  obtain ⟨hsplit, hbehind⟩ := splitUserinfo_authorityOf hs hds htext
  obtain ⟨hnobody, hafter⟩ := splitUserinfo_eq_afterAt fun hm => (hplain '@' hm).2 rfl
  rw [hostAndPort, hsplit, hafter] at hhost hport
  have hpair := splitHost_of_ok hne hds hhost hport
  rw [hpair] at hhost hport
  have hnomark : '?' ∉ behindAuthority s ∧ '#' ∉ behindAuthority s := by
    rw [hbehind, List.mem_cons, List.mem_cons, not_or, not_or]
    exact ⟨⟨by decide, hrest.1⟩, by decide, hrest.2⟩
  obtain ⟨hnoquery, hnofragment⟩ := (splitAtMarks_iff s).mpr hnomark
  rw [userinfoOf, hsplit, hnobody] at hname hpassword
  rw [beforeQuery_of_not_mem hnomark.1 hnomark.2, hbehind] at hpath
  rw [hnoquery] at hquery
  rw [hnofragment] at hfragment
  exact ⟨⟨rfl, rfl, effectivePort_of_parsePort hne hport, hname, hpassword, hpath, hfragment⟩,
    hquery, hhost⟩

/-- If an address has nothing of its own but the root, nothing in its text ends the host. -/
theorem plain_of_root (hs : (kept s).dropWhile isSlash = text ++ ':' :: (ds ++ ['/']))
    (hds : ∀ d ∈ ds, d.isDigit = true) (h : parse scheme s = .ok a) (hroot : a.path = [[]])
    (hquery : a.query = none) (hfragment : a.fragment = none) :
    ∀ c ∈ text, endsAuthority c = false := by
  obtain ⟨-, -, -, -, -, hpath, hquery', hfragment'⟩ := parts_of_parse h
  rw [hquery', Option.map_eq_none_iff] at hquery
  rw [hfragment', Option.map_eq_none_iff] at hfragment
  obtain ⟨hnoquery, hnofragment⟩ := (splitAtMarks_iff s).mp ⟨hquery, hfragment⟩
  rw [beforeQuery_of_not_mem hnoquery hnofragment] at hpath
  by_contra hsome
  have hfound : (text.find? endsAuthority).isSome = true := by
    rw [List.find?_isSome]
    simpa using hsome
  obtain ⟨x, hfind⟩ := Option.isSome_iff_exists.mp hfound
  obtain ⟨hx, front, back, rfl, hall⟩ := List.find?_eq_some_iff_append.mp hfind
  have hfront : ∀ c ∈ front, endsAuthority c = false := by simpa using hall
  rw [List.append_assoc, List.cons_append] at hs
  obtain ⟨-, hbehind⟩ := authorityOf_of_plain hs hfront hx
  rw [hbehind] at hpath hnoquery hnofragment
  have hslash : isSlash x = true := by
    have hmark : x ≠ '?' ∧ x ≠ '#' :=
      ⟨fun hm => hnoquery (hm ▸ List.mem_cons_self), fun hm => hnofragment (hm ▸ List.mem_cons_self)⟩
    simpa [endsAuthority, hmark] using hx
  have hnoslash : ∀ d ∈ ds, isSlash d = false := fun d hd => by
    have hplain := (plain_of_isDigit (hds d hd)).1
    simp only [endsAuthority, Bool.or_eq_false_iff] at hplain
    exact hplain.1.1
  exact parsePath_ne hslash back hnoslash (hpath.symm.trans hroot)

theorem plain_afterAt (hs : (kept s).dropWhile isSlash = text ++ ':' :: (ds ++ '/' :: rest))
    (hds : ∀ d ∈ ds, d.isDigit = true) (hcolon : text.head? ≠ some ':')
    (htext : ∀ c ∈ text, endsAuthority c = false) (h : parse scheme s = .ok a)
    (husername : a.username = []) : ∀ c ∈ afterAt text, endsAuthority c = false ∧ c ≠ '@' := by
  obtain ⟨-, -, -, hname, -⟩ := parts_of_parse h
  rw [userinfoOf, (splitUserinfo_authorityOf hs hds htext).1] at hname
  have hat := not_mem_afterAt hcolon (hname.symm.trans husername)
  exact fun c hc => ⟨(forall_mem_afterAt (by decide)).mpr htext c hc, fun h => hat (h ▸ hc)⟩

end Written

end TrafficWatch.Url
