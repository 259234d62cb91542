import TrafficWatch.Json.Quotation

/-!
JSON text as tokens. The first thing that is no token ends the list.
-/

namespace TrafficWatch.Json

/-- A scalar with a fault when skipped ends the text; one without may still be unreadable. -/
structure Scalar (α : Type) where
  strict : Except Fault α
  skipped : Option Fault

inductive Token where
  | openList
  | closeList
  | openObject
  | closeObject
  | comma
  | colon
  | null
  | bool (value : Bool)
  | number (value : Scalar Number)
  | text (value : Scalar String)
  | stray (fault : Fault)
  | finish

def isSpace (c : Char) : Bool := c = ' ' || c = '\n' || c = '\t' || c = '\r'

/-- What follows `word`, or the fault if the text goes another way. -/
def literal (word : List Char) (s : List Char) : Except Fault (List Char) :=
  match word, s with
  | [], s => .ok s
  | _ :: _, [] => .error .ended
  | w :: ws, c :: cs => if w = c then literal ws cs else .error .malformed

theorem literal_length {w s t : List Char} (h : literal w s = .ok t) : t.length ≤ s.length := by
  fun_induction literal w s with
  | case1 => simp at h; subst h; simp
  | case2 => simp at h
  | case3 _ _ _ ih => have := ih h; simp; omega
  | case4 => simp at h

theorem someDigits_length {s : List Char} {p : List Char × List Char}
    (h : someDigits s = .ok p) : p.2.length < s.length := by
  unfold someDigits at h
  split at h
  · simp at h
  · rename_i c t
    split at h
    · rename_i hc
      simp at h; subst h
      have := (List.dropWhile_sublist Char.isDigit (l := t)).length_le
      simp [List.dropWhile, hc]; omega
    · simp at h

theorem scanNumber_length {s : List Char} {p : Lexeme × List Char} (h : scanNumber s = .ok p) :
    p.2.length < s.length := by
  have whole : ∀ {s : List Char} {p}, wholePart s = .ok p → p.2.length < s.length := by
    intro s p h
    unfold wholePart at h
    split at h
    · split at h
      · simp at h
      · simp at h; subst h; simp
    · exact someDigits_length h
  have frac : ∀ {s : List Char} {p}, fractionPart s = .ok p → p.2.2.length ≤ s.length := by
    intro s p h
    unfold fractionPart at h
    split at h
    · simp [Except.map] at h
      split at h
      · simp at h
      · rename_i hd
        simp at h; subst h
        have := someDigits_length hd
        simp; omega
    · simp at h; subst h; simp
  have expo : ∀ {s : List Char} {p}, exponentPart s = .ok p → p.2.length ≤ s.length := by
    intro s p h
    unfold exponentPart at h
    split at h
    · split at h
      · split at h <;>
        · simp [Except.map] at h
          split at h
          · simp at h
          · rename_i hd
            simp at h; subst h
            have := someDigits_length hd
            simp_all; omega
      · simp at h; subst h; simp
    · simp at h; subst h; simp
  have main : ∀ {n : Bool} {s : List Char} {p}, unsigned n s = .ok p → p.2.length < s.length := by
    intro n s p h
    simp only [unsigned, bind, Except.bind] at h
    split at h
    · simp at h
    · rename_i a h1
      obtain ⟨w, s1⟩ := a
      dsimp only at h
      split at h
      · simp at h
      · rename_i b h2
        obtain ⟨m, f, s2⟩ := b
        dsimp only at h
        split at h
        · simp at h
        · rename_i c h3
          obtain ⟨e, s3⟩ := c
          simp [pure, Except.pure] at h
          subst h
          have l1 := whole h1
          have l2 := frac h2
          have l3 := expo h3
          dsimp only at l1 l2 l3 ⊢
          omega
  unfold scanNumber at h
  split at h
  · have := main h; simp; omega
  · exact main h

/-- The tokens of a text, up to its end or its first fault. -/
def tokens (s : List Char) : List Token :=
  match s with
  | [] => [.finish]
  | c :: t =>
    if isSpace c then tokens t
    else if c = '[' then .openList :: tokens t
    else if c = ']' then .closeList :: tokens t
    else if c = '\x7b' then .openObject :: tokens t
    else if c = '\x7d' then .closeObject :: tokens t
    else if c = ',' then .comma :: tokens t
    else if c = ':' then .colon :: tokens t
    else if c = '"' then
      match _skip : skipText t with
      | .ok u => .text ⟨readText [] t, none⟩ :: tokens u
      | .error f => [.text ⟨readText [] t, some f⟩]
    else if c = 'n' then
      match _rest : literal ['u', 'l', 'l'] t with
      | .ok u => .null :: tokens u
      | .error f => [.stray f]
    else if c = 't' then
      match _rest : literal ['r', 'u', 'e'] t with
      | .ok u => .bool true :: tokens u
      | .error f => [.stray f]
    else if c = 'f' then
      match _rest : literal ['a', 'l', 's', 'e'] t with
      | .ok u => .bool false :: tokens u
      | .error f => [.stray f]
    else if c = '-' ∨ c.isDigit then
      match _scan : scanNumber (c :: t) with
      | .ok p => .number ⟨p.1.value, none⟩ :: tokens p.2
      | .error b => [.number ⟨.error b.strict, some .malformed⟩]
    else [.stray .malformed]
termination_by s.length
decreasing_by
  all_goals simp_wf
  · have := skipText_length _skip; omega
  · have := literal_length _rest; omega
  · have := literal_length _rest; omega
  · have := literal_length _rest; omega
  · have := scanNumber_length _scan; simp at this; omega

theorem tokens_nil : tokens [] = [.finish] := by rw [tokens]

theorem tokens_space {c : Char} (hc : isSpace c = true) (t : List Char) :
    tokens (c :: t) = tokens t := by
  rw [tokens, if_pos hc]

end TrafficWatch.Json
