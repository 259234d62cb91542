/-!
Bytes as text. What is not UTF-8 becomes replacement characters, one for each longest piece that
could have begun a character.
-/

namespace TrafficWatch.Text

def isContinuation (b : UInt8) : Bool := 0x80 ≤ b && b ≤ 0xbf

/-- How many bytes follow the first byte of a character, and which the next one may be. -/
def following (b : UInt8) : Option (Nat × UInt8 × UInt8) :=
  if 0xc2 ≤ b && b ≤ 0xdf then some (1, 0x80, 0xbf)
  else if b == 0xe0 then some (2, 0xa0, 0xbf)
  else if b == 0xed then some (2, 0x80, 0x9f)
  else if 0xe1 ≤ b && b ≤ 0xef then some (2, 0x80, 0xbf)
  else if b == 0xf0 then some (3, 0x90, 0xbf)
  else if 0xf1 ≤ b && b ≤ 0xf3 then some (3, 0x80, 0xbf)
  else if b == 0xf4 then some (3, 0x80, 0x8f)
  else none

/-- The bytes that continue a character, as far as they do. -/
def continuation (count : Nat) (low high : UInt8) (bs : List UInt8) : List UInt8 :=
  match bs with
  | [] => []
  | b :: bs => if low ≤ b && b ≤ high then b :: (bs.take (count - 1)).takeWhile isContinuation else []

def replacement : Char := '\ufffd'

/-- The first character, and the number of bytes that it takes. -/
def firstChar (b : UInt8) (bs : List UInt8) : Char × Nat :=
  if b < 0x80 then (Char.ofNat b.toNat, 1)
  else match following b with
    | none => (replacement, 1)
    | some (count, low, high) =>
      let cs := continuation count low high bs
      if cs.length = count then
        let lead := b.toNat % Nat.pow 2 (6 - count)
        (Char.ofNat (cs.foldl (fun n c => n * 64 + c.toNat % 64) lead), count + 1)
      else (replacement, cs.length + 1)

def lossyChars : Nat → List UInt8 → List Char
  | 0, _ | _, [] => []
  | fuel + 1, b :: bs =>
    let (c, n) := firstChar b bs
    c :: lossyChars fuel (bs.drop (n - 1))

/-- Valid text comes out as it is. -/
def ofBytesLossy (bs : List UInt8) : String :=
  match String.fromUTF8? ⟨bs.toArray⟩ with
  | some s => s
  | none => String.ofList (lossyChars bs.length bs)

def bytes (s : String) : List UInt8 := s.toUTF8.data.toList

theorem fromUTF8?_toUTF8 (s : String) : String.fromUTF8? s.toUTF8 = some s := by
  unfold String.fromUTF8?
  split
  · rfl
  · rename_i h
    exact absurd s.isValidUTF8 h

theorem ofBytesLossy_bytes (s : String) : ofBytesLossy (bytes s) = s := by
  have h := fromUTF8?_toUTF8 s
  unfold ofBytesLossy bytes
  simp only [Array.toArray_toList] at *
  rw [h]

end TrafficWatch.Text
