import TrafficWatch.Text.Lossy
import TrafficWatch.Text.Ranges

/-!
Bytes written as a percent sign and two hexadecimal digits. Each part of an address has its own set
of characters that are written so; beyond ASCII all are.
-/

namespace TrafficWatch.Url

def hexDigit (n : Nat) : Char := if n < 10 then Char.ofNat (48 + n) else Char.ofNat (55 + n)

def percentByte (b : UInt8) : List Char := ['%', hexDigit (b.toNat / 16), hexDigit (b.toNat % 16)]

def percentChar (c : Char) : List Char := (String.utf8EncodeChar c).flatMap percentByte

/-- Writes the characters of the set, and all beyond ASCII, with percent signs. -/
def percentEncode (set : Char → Bool) (s : List Char) : List Char :=
  s.flatMap fun c => if set c || 0x80 ≤ c.toNat then percentChar c else [c]

def isControl (c : Char) : Bool := c.toNat < 0x20 || c.toNat == 0x7f

def fragmentSet (c : Char) : Bool := isControl c || [' ', '"', '<', '>', '\x60'].contains c

def pathSet (c : Char) : Bool := fragmentSet c || ['#', '?', '\x7b', '\x7d'].contains c

def userinfoSet (c : Char) : Bool :=
  pathSet c || ['/', ':', ';', '=', '@', '[', '\\', ']', '^', '|'].contains c

/-- For a text that is to stay one segment of a path. -/
def segmentSet (c : Char) : Bool := pathSet c || ['/', '%', '\\'].contains c

def querySet (c : Char) : Bool := isControl c || [' ', '"', '#', '<', '>', '\''].contains c

def isHexDigit (b : UInt8) : Bool :=
  (48 ≤ b && b ≤ 57) || (65 ≤ b && b ≤ 70) || (97 ≤ b && b ≤ 102)

def hexByte (b : UInt8) : Nat := Text.hexDigitValue (Char.ofNat b.toNat)

/-- A percent sign without two digits after it stands for itself. -/
def percentDecode : List UInt8 → List UInt8
  | 37 :: a :: b :: t =>
    if isHexDigit a && isHexDigit b then UInt8.ofNat (16 * hexByte a + hexByte b) :: percentDecode t
    else 37 :: percentDecode (a :: b :: t)
  | b :: t => b :: percentDecode t
  | [] => []

end TrafficWatch.Url
