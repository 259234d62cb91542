import Mathlib.Tactic.IntervalCases
import TrafficWatch.Json.Token
import TrafficWatch.Json.Value
import TrafficWatch.Proofs.Decimal.Digits

/-!
Written scalars as tokens. A text between quotes is read as the text that was quoted, and a whole
number in digits as that number, as long as it does not go on.
-/

namespace TrafficWatch.Json

open Decimal

theorem tokens_blanks {blanks : List Char} (h : ∀ c ∈ blanks, isSpace c = true) (t : List Char) :
    tokens (blanks ++ t) = tokens t := by
  induction blanks with
  | nil => rfl
  | cons c blanks ih =>
    rw [List.forall_mem_cons] at h
    rw [List.cons_append, tokens_space h.1, ih h.2]

/-- The characters that are tokens by themselves. -/
def mark? : Char → Option Token
  | '[' => some .openList
  | ']' => some .closeList
  | '\x7b' => some .openObject
  | '\x7d' => some .closeObject
  | ',' => some .comma
  | ':' => some .colon
  | _ => none

theorem tokens_mark {c : Char} {k : Token} (h : mark? c = some k) (t : List Char) :
    tokens (c :: t) = k :: tokens t := by
  unfold mark? at h
  split at h <;> cases h <;> (rw [tokens]; simp [isSpace])

theorem tokens_openList (t : List Char) : tokens ('[' :: t) = .openList :: tokens t :=
  tokens_mark rfl t

theorem tokens_closeList (t : List Char) : tokens (']' :: t) = .closeList :: tokens t :=
  tokens_mark rfl t

theorem tokens_openObject (t : List Char) : tokens ('\x7b' :: t) = .openObject :: tokens t :=
  tokens_mark rfl t

theorem tokens_closeObject (t : List Char) : tokens ('\x7d' :: t) = .closeObject :: tokens t :=
  tokens_mark rfl t

theorem tokens_comma (t : List Char) : tokens (',' :: t) = .comma :: tokens t :=
  tokens_mark rfl t

theorem tokens_colon (t : List Char) : tokens (':' :: t) = .colon :: tokens t :=
  tokens_mark rfl t

theorem tokens_null (t : List Char) : tokens ("null".toList ++ t) = .null :: tokens t := by
  rw [show "null".toList ++ t = 'n' :: 'u' :: 'l' :: 'l' :: t from rfl, tokens]
  simp [isSpace, literal]

theorem tokens_true (t : List Char) : tokens ("true".toList ++ t) = .bool true :: tokens t := by
  rw [show "true".toList ++ t = 't' :: 'r' :: 'u' :: 'e' :: t from rfl, tokens]
  simp [isSpace, literal]

theorem tokens_false (t : List Char) : tokens ("false".toList ++ t) = .bool false :: tokens t := by
  rw [show "false".toList ++ t = 'f' :: 'a' :: 'l' :: 's' :: 'e' :: t from rfl, tokens]
  simp [isSpace, literal]

/-! ### Texts -/

/-- The four digits that a control character is written with. -/
theorem fourHex_control {n : Nat} (hn : n < 0x20) (t : List Char) :
    fourHex ((padZeros 4 (Text.hexText n)).toList ++ t) = .ok (n, t) := by
  have hdigits : ∃ a b c d, (padZeros 4 (Text.hexText n)).toList = [a, b, c, d] ∧
      (isHex a && isHex b && isHex c && isHex d) = true ∧ Text.hexValue [a, b, c, d] = n := by
    interval_cases n <;> exact ⟨_, _, _, _, rfl, rfl, rfl⟩
  obtain ⟨a, b, c, d, hfour, hhex, hvalue⟩ := hdigits
  rw [hfour, ← hvalue]
  simp [fourHex, hhex]

theorem unicodeEscape_control {c : Char} (hc : c.toNat < 0x20) (t : List Char) :
    unicodeEscape ((padZeros 4 (Text.hexText c.toNat)).toList ++ t) = .ok (c, t) := by
  unfold unicodeEscape
  rw [fourHex_control hc]
  have hlow : ¬ (0xdc00 ≤ c.toNat ∧ c.toNat ≤ 0xdfff) := by omega
  have hhigh : ¬ (0xd800 ≤ c.toNat ∧ c.toNat ≤ 0xdbff) := by omega
  simp [bind, Except.bind, hlow, hhigh, pure, Except.pure]

theorem readText_plain {c : Char} (hquote : c ≠ '"') (hslash : c ≠ '\\') (hc : ¬ c.toNat < 0x20)
    (done t : List Char) : readText done (c :: t) = readText (c :: done) t := by
  rw [readText.eq_def]
  simp [hquote, hslash, hc]

theorem skipText_plain {c : Char} (hquote : c ≠ '"') (hslash : c ≠ '\\') (hc : ¬ c.toNat < 0x20)
    (t : List Char) : skipText (c :: t) = skipText t := by
  rw [skipText.eq_def]
  simp [hquote, hslash, hc]

theorem readText_simple {e x : Char} (he : simpleEscape e = some x) (hu : e ≠ 'u')
    (done t : List Char) : readText done ('\\' :: e :: t) = readText (x :: done) t := by
  rw [readText]
  simp [he, hu]

theorem skipText_simple {e x : Char} (he : simpleEscape e = some x) (hu : e ≠ 'u')
    (t : List Char) : skipText ('\\' :: e :: t) = skipText t := by
  rw [skipText]
  simp [he, hu]

theorem readText_unicode {u v : List Char} {x : Char} (h : unicodeEscape u = .ok (x, v))
    (done : List Char) : readText done ('\\' :: 'u' :: u) = readText (x :: done) v := by
  rw [readText]
  simp only [Char.reduceEq, ↓reduceIte]
  split <;> simp_all

theorem skipText_unicode {u v : List Char} {n : Nat} (h : fourHex u = .ok (n, v)) :
    skipText ('\\' :: 'u' :: u) = skipText v := by
  rw [skipText]
  simp only [Char.reduceEq, ↓reduceIte]
  split <;> simp_all

/-- A character is read, and passed over, by what it is written as. -/
theorem read_escape (c : Char) (done t : List Char) :
    readText done ((Value.escape c).toList ++ t) = readText (c :: done) t ∧
      skipText ((Value.escape c).toList ++ t) = skipText t := by
  have simple : ∀ e x : Char, simpleEscape e = some x → e ≠ 'u' →
      readText done ('\\' :: e :: t) = readText (x :: done) t ∧
        skipText ('\\' :: e :: t) = skipText t := fun e x he hu =>
    ⟨readText_simple he hu done t, skipText_simple he hu t⟩
  unfold Value.escape
  split
  · next h => subst h; exact simple '"' '"' rfl (by decide)
  split
  · next h => subst h; exact simple '\\' '\\' rfl (by decide)
  split
  · next h => subst h; exact simple 'b' '\x08' rfl (by decide)
  split
  · next h => subst h; exact simple 'f' '\x0c' rfl (by decide)
  split
  · next h => subst h; exact simple 'n' '\n' rfl (by decide)
  split
  · next h => subst h; exact simple 'r' '\r' rfl (by decide)
  split
  · next h => subst h; exact simple 't' '\t' rfl (by decide)
  split
  · next hcontrol =>
    have hfront : "\\u".toList = ['\\', 'u'] := rfl
    rw [String.toList_append, List.append_assoc, hfront, List.cons_append, List.singleton_append]
    exact ⟨readText_unicode (unicodeEscape_control hcontrol t) done,
      skipText_unicode (fourHex_control hcontrol t)⟩
  · next hquote hslash _ _ _ _ _ hplain =>
    rw [Char.toString, String.toList_singleton, List.singleton_append]
    exact ⟨readText_plain hquote hslash hplain done t, skipText_plain hquote hslash hplain t⟩

theorem read_escapes (cs done t : List Char) :
    readText done (cs.flatMap (fun c => (Value.escape c).toList) ++ '"' :: t) =
        .ok (String.ofList (done.reverse ++ cs)) ∧
      skipText (cs.flatMap (fun c => (Value.escape c).toList) ++ '"' :: t) = .ok t := by
  induction cs generalizing done with
  | nil =>
    rw [List.flatMap_nil, List.nil_append, List.append_nil]
    exact ⟨readText_quote done t, skipText_quote t⟩
  | cons c cs ih =>
    obtain ⟨hread, hskip⟩ := read_escape c done
      (cs.flatMap (fun c => (Value.escape c).toList) ++ '"' :: t)
    rw [List.flatMap_cons, List.append_assoc, hread, hskip, (ih (c :: done)).1, (ih done).2,
      List.reverse_cons, List.append_assoc, List.singleton_append]
    exact ⟨rfl, rfl⟩

theorem toList_quote (s : String) : (Value.quote s).toList =
    '"' :: (s.toList.flatMap (fun c => (Value.escape c).toList) ++ ['"']) := by
  simp [Value.quote, String.toList_join, List.flatMap_def, Function.comp_def]

theorem tokens_text {t u : List Char} (h : skipText t = .ok u) :
    tokens ('"' :: t) = .text ⟨readText [] t, none⟩ :: tokens u := by
  rw [tokens]
  simp only [isSpace, Char.reduceEq, decide_false, Bool.or_self, Bool.false_eq_true, ↓reduceIte]
  split <;> simp_all

/-- A quoted text is one token, and its value is the text. -/
theorem tokens_quote (s : String) (t : List Char) :
    tokens ((Value.quote s).toList ++ t) = .text ⟨.ok s, none⟩ :: tokens t := by
  obtain ⟨hread, hskip⟩ := read_escapes s.toList [] t
  rw [toList_quote, List.cons_append, List.append_assoc, List.singleton_append, tokens_text hskip,
    hread, List.reverse_nil, List.nil_append, String.ofList_toList]

/-! ### Numbers -/

/-- A text that does not lengthen a number before it. -/
def NumberEnds (rest : List Char) : Prop :=
  ∀ c ∈ rest.head?, c.isDigit = false ∧ c ≠ '.' ∧ c ≠ 'e' ∧ c ≠ 'E'

variable {rest : List Char}

theorem NumberEnds.noDigitNext (h : NumberEnds rest) : NoDigitNext rest := fun c hc => (h c hc).1

theorem numberEnds_nil : NumberEnds [] := nofun

theorem numberEnds_cons {c : Char}
    (hc : c.isDigit = false ∧ c ≠ '.' ∧ c ≠ 'e' ∧ c ≠ 'E' := by decide) (t : List Char) :
    NumberEnds (c :: t) := by
  rintro d ⟨⟩
  exact hc

theorem ne_of_isDigit {c d : Char} (hc : c.isDigit = true) (hd : d.isDigit = false := by decide) :
    c ≠ d := by
  rintro rfl
  exact absurd hc (by simp [hd])

theorem exists_toDigits_cons (n : Nat) :
    ∃ c ds, Nat.toDigits 10 n = c :: ds ∧ c.isDigit = true := by
  obtain ⟨c, ds, h⟩ := List.exists_cons_of_ne_nil (Nat.toDigits_ne_nil (n := n) (b := 10))
  exact ⟨c, ds, h, isDigit_of_mem_toDigits (h ▸ List.mem_cons_self)⟩

theorem someDigits_toDigits (n : Nat) (h : NumberEnds rest) :
    someDigits (Nat.toDigits 10 n ++ rest) = .ok (Nat.toDigits 10 n, rest) := by
  have hall : ∀ c ∈ Nat.toDigits 10 n, c.isDigit = true := fun c hc => isDigit_of_mem_toDigits hc
  have htake := takeWhile_digits hall h.noDigitNext
  have hdrop := dropWhile_digits hall h.noDigitNext
  obtain ⟨c, ds, hds, hc⟩ := exists_toDigits_cons n
  rw [hds, List.cons_append] at htake hdrop ⊢
  simp only [someDigits, hc, ↓reduceIte, htake, hdrop]

theorem wholePart_toDigits (n : Nat) (h : NumberEnds rest) :
    wholePart (Nat.toDigits 10 n ++ rest) = .ok (Nat.toDigits 10 n, rest) := by
  obtain rfl | hn := Nat.eq_zero_or_pos n
  · rw [Nat.toDigits_zero]
    cases rest with
    | nil => rfl
    | cons c t => simp [wholePart, (h c rfl).1]
  · -- a number that does not begin with a zero is taken as its digits
    rw [← someDigits_toDigits n h]
    unfold wholePart
    split
    · next hzero =>
      obtain ⟨d, ds, hds, -⟩ := exists_toDigits_cons n
      have hhead := head?_toDigits_ne_zero hn
      rw [hds, List.cons_append] at hzero
      rw [hds] at hhead
      exact absurd (congrArg some (List.cons.inj hzero).1) hhead
    · rfl

theorem fractionPart_of_numberEnds (h : NumberEnds rest) :
    fractionPart rest = .ok (false, [], rest) := by
  unfold fractionPart
  split
  · exact absurd rfl (h '.' rfl).2.1
  · rfl

theorem exponentPart_of_numberEnds (h : NumberEnds rest) :
    exponentPart rest = .ok (none, rest) := by
  cases rest with
  | nil => rfl
  | cons c t =>
    obtain ⟨-, -, he, hE⟩ := h c rfl
    simp [exponentPart, he, hE]

/-- The parts of a whole number. -/
def wholeLexeme (n : Nat) : Lexeme := ⟨false, Nat.toDigits 10 n, [], none, false⟩

theorem scanNumber_toDigits (n : Nat) (h : NumberEnds rest) :
    scanNumber (Nat.toDigits 10 n ++ rest) = .ok (wholeLexeme n, rest) := by
  have hscan : scanNumber (Nat.toDigits 10 n ++ rest) =
      unsigned false (Nat.toDigits 10 n ++ rest) := by
    obtain ⟨c, ds, hds, hc⟩ := exists_toDigits_cons n
    have hsign : c ≠ '-' := ne_of_isDigit hc
    rw [hds, List.cons_append]
    unfold scanNumber
    split
    · next hminus => exact absurd (List.cons.inj hminus).1 hsign
    · rfl
  rw [hscan]
  simp only [unsigned, wholePart_toDigits n h, fractionPart_of_numberEnds h,
    exponentPart_of_numberEnds h, bind, Except.bind, pure, Except.pure, wholeLexeme]

theorem takeDigits_of_le (ds : List Char) (start : Nat)
    (h : Nat.ofDigitChars 10 ds start ≤ maxSignificand) :
    takeDigits start ds = (Nat.ofDigitChars 10 ds start, ds.length) := by
  induction ds generalizing start with
  | nil => rfl
  | cons c ds ih =>
    rw [Nat.ofDigitChars_cons] at h
    have hnext : 10 * start + digit c ≤ maxSignificand := Nat.le_trans (le_ofDigitChars ds _) h
    have hrest : takeDigits (10 * start + digit c) ds =
        (Nat.ofDigitChars 10 ds (10 * start + digit c), ds.length) := ih _ h
    rw [takeDigits, if_pos hnext, hrest, Nat.ofDigitChars_cons, List.length_cons]
    rfl

theorem value_wholeLexeme {n : Nat} (hn : n ≤ maxSignificand) :
    (wholeLexeme n).value = .ok (.integer n) := by
  have htake : takeDigits 0 (Nat.toDigits 10 n) = (n, (Nat.toDigits 10 n).length) := by
    have hvalue : Nat.ofDigitChars 10 (Nat.toDigits 10 n) 0 = n := Nat.ofDigitChars_ten_toDigits
    rw [takeDigits_of_le _ _ (hvalue.symm ▸ hn), hvalue]
  simp [Lexeme.value, wholeLexeme, htake]

theorem tokens_number {c : Char} {t : List Char} {p : Lexeme × List Char} (hc : c.isDigit = true)
    (h : scanNumber (c :: t) = .ok p) :
    tokens (c :: t) = .number ⟨p.1.value, none⟩ :: tokens p.2 := by
  have hspace : isSpace c = false := by
    simp [isSpace, ne_of_isDigit hc (d := ' '), ne_of_isDigit hc (d := '\n'),
      ne_of_isDigit hc (d := '\t'), ne_of_isDigit hc (d := '\r')]
  rw [tokens]
  simp only [hspace, ne_of_isDigit hc (d := '['), ne_of_isDigit hc (d := ']'),
    ne_of_isDigit hc (d := '\x7b'), ne_of_isDigit hc (d := '\x7d'), ne_of_isDigit hc (d := ','),
    ne_of_isDigit hc (d := ':'), ne_of_isDigit hc (d := '"'), ne_of_isDigit hc (d := 'n'),
    ne_of_isDigit hc (d := 't'), ne_of_isDigit hc (d := 'f'), hc, or_true, ↓reduceIte,
    Bool.false_eq_true]
  split <;> simp_all

/-- A whole number of up to 64 bits is one token, and its value is the number. -/
theorem tokens_nat {n : Nat} (hn : n ≤ maxSignificand) (h : NumberEnds rest) :
    tokens ((toString (n : Int)).toList ++ rest) =
      .number ⟨.ok (.integer n), none⟩ :: tokens rest := by
  have hdigits : (toString (n : Int)).toList = Nat.toDigits 10 n := Nat.toList_repr
  have hscan := scanNumber_toDigits n h
  obtain ⟨c, ds, hds, hc⟩ := exists_toDigits_cons n
  rw [hdigits]
  rw [hds, List.cons_append] at hscan ⊢
  rw [tokens_number hc hscan, value_wholeLexeme hn]

end TrafficWatch.Json
