import TrafficWatch.Json.Number
import TrafficWatch.Text.Ranges

/-!
Strings of JSON text. `readText` gives the characters; `skipText` only finds the end, and so lets
pass escapes that name half a surrogate pair.
-/

namespace TrafficWatch.Json

def isHex (c : Char) : Bool :=
  c.isDigit || ('a' ≤ c && c ≤ 'f') || ('A' ≤ c && c ≤ 'F')

/-- Four hexadecimal digits. Fewer than four bytes before the end count as an early end. -/
def fourHex (s : List Char) : Except Fault (Nat × List Char) :=
  match s with
  | a :: b :: c :: d :: t =>
    if isHex a && isHex b && isHex c && isHex d then .ok (Text.hexValue [a, b, c, d], t)
    else .error .malformed
  | _ => if (String.ofList s).utf8ByteSize < 4 then .error .ended else .error .malformed

theorem fourHex_length {s t : List Char} {n : Nat} (h : fourHex s = .ok (n, t)) :
    t.length < s.length := by
  unfold fourHex at h
  split at h
  · split at h
    · simp at h; obtain ⟨_, rfl⟩ := h; simp; omega
    · simp at h
  · split at h <;> simp at h

/-- The character that a one-letter escape stands for. -/
def simpleEscape (c : Char) : Option Char :=
  if c = '"' then some '"'
  else if c = '\\' then some '\\'
  else if c = '/' then some '/'
  else if c = 'b' then some '\x08'
  else if c = 'f' then some '\x0c'
  else if c = 'n' then some '\n'
  else if c = 'r' then some '\r'
  else if c = 't' then some '\t'
  else none

/-- The second half of a surrogate pair. -/
def lowSurrogate (s : List Char) : Except Fault (Nat × List Char) :=
  match s with
  | [] => .error .ended
  | c :: t =>
    if c ≠ '\\' then .error .malformed
    else match t with
      | [] => .error .ended
      | d :: u =>
        if d ≠ 'u' then .error .malformed
        else do
          let (n, v) ← fourHex u
          if 0xdc00 ≤ n ∧ n ≤ 0xdfff then pure (n, v) else .error .malformed

theorem lowSurrogate_length {s t : List Char} {n : Nat} (h : lowSurrogate s = .ok (n, t)) :
    t.length < s.length := by
  unfold lowSurrogate at h
  split at h
  · simp at h
  · split at h
    · simp at h
    · split at h
      · simp at h
      · split at h
        · simp at h
        · simp only [bind, Except.bind] at h
          split at h
          · simp at h
          · rename_i u _ p hp
            split at h
            · simp [pure, Except.pure] at h
              obtain ⟨_, rfl⟩ := h
              have := fourHex_length hp
              simp; omega
            · simp at h

/-- The character of a `\u` escape, from after the `u`. -/
def unicodeEscape (s : List Char) : Except Fault (Char × List Char) := do
  let (n, t) ← fourHex s
  if 0xdc00 ≤ n ∧ n ≤ 0xdfff then .error .malformed
  else if 0xd800 ≤ n ∧ n ≤ 0xdbff then do
    let (m, u) ← lowSurrogate t
    pure (Char.ofNat ((n - 0xd800) * 0x400 + (m - 0xdc00) + 0x10000), u)
  else pure (Char.ofNat n, t)

theorem unicodeEscape_length {s t : List Char} {c : Char} (h : unicodeEscape s = .ok (c, t)) :
    t.length < s.length := by
  simp only [unicodeEscape, bind, Except.bind] at h
  split at h
  · simp at h
  · rename_i p hp
    have h1 := fourHex_length hp
    split at h
    · simp at h
    · split at h
      · split at h
        · simp at h
        · rename_i q hq
          have h2 := lowSurrogate_length hq
          simp [pure, Except.pure] at h
          obtain ⟨_, rfl⟩ := h
          omega
      · simp [pure, Except.pure] at h
        obtain ⟨_, rfl⟩ := h
        exact h1

/-- The characters up to the closing quote; `done` holds those before, last first. -/
def readText (done : List Char) (s : List Char) : Except Fault String :=
  match s with
  | [] => .error .ended
  | c :: t =>
    if c = '"' then .ok (String.ofList done.reverse)
    else if c = '\\' then
      match t with
      | [] => .error .ended
      | e :: u =>
        if e = 'u' then
          match _hu : unicodeEscape u with
          | .error f => .error f
          | .ok (x, v) => readText (x :: done) v
        else match simpleEscape e with
          | some x => readText (x :: done) u
          | none => .error .malformed
    else if c.toNat < 0x20 then .error .malformed
    else readText (c :: done) t
termination_by s.length
decreasing_by
  · have := unicodeEscape_length _hu
    simp only [List.length_cons]
    omega
  all_goals
    simp only [List.length_cons]
    omega

theorem readText_quote (done t : List Char) :
    readText done ('"' :: t) = .ok (String.ofList done.reverse) := by
  rw [readText.eq_def]
  simp

/-- What follows the closing quote. -/
def skipText (s : List Char) : Except Fault (List Char) :=
  match s with
  | [] => .error .ended
  | c :: t =>
    if c = '"' then .ok t
    else if c = '\\' then
      match t with
      | [] => .error .ended
      | e :: u =>
        if e = 'u' then
          match _hu : fourHex u with
          | .error f => .error f
          | .ok (_, v) => skipText v
        else if (simpleEscape e).isSome then skipText u
        else .error .malformed
    else if c.toNat < 0x20 then .error .malformed
    else skipText t
termination_by s.length
decreasing_by
  · have := fourHex_length _hu
    simp only [List.length_cons]
    omega
  all_goals
    simp only [List.length_cons]
    omega

theorem skipText_quote (t : List Char) : skipText ('"' :: t) = .ok t := by
  rw [skipText.eq_def]
  simp

theorem skipText_length {s t : List Char} (h : skipText s = .ok t) : t.length < s.length := by
  fun_induction skipText s with
  | case1 => simp at h
  | case2 => simp at h; subst h; simp
  | case3 => simp at h
  | case4 => simp at h
  | case5 _ _ _ read _ ih =>
    have := fourHex_length read
    have := ih h
    simp; omega
  | case6 _ _ _ _ _ ih => have := ih h; simp; omega
  | case7 => simp at h
  | case8 => simp at h
  | case9 _ _ _ _ _ ih => have := ih h; simp; omega

end TrafficWatch.Json
