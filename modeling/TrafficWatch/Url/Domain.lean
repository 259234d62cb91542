import TrafficWatch.Text.Composition
import TrafficWatch.Text.Direction
import TrafficWatch.Text.Joining
import TrafficWatch.Url.Mapping
import TrafficWatch.Url.Punycode

/-!
Names of hosts in ASCII. The many forms of a character become one, and labels with anything beyond
ASCII are written in Punycode.
-/

namespace TrafficWatch.Url.Domain

def isForbidden (c : Char) : Bool :=
  c.toNat ≤ 0x20 || c.toNat == 0x7f ||
    ['#', '%', '/', ':', '<', '>', '?', '@', '[', '\\', ']', '^', '|'].contains c

/-- What the characters stand for, if all may be in a name. -/
def mapText (cs : List Char) : Option (List Char) :=
  (cs.mapM mapChar).map fun mapped => Text.compose mapped.flatten

/-- A part of a name between dots. -/
structure Label where
  shown : List Char
  written : List Char
deriving DecidableEq, Repr

def mark : List Char := ['x', 'n', '-', '-']

def isAscii (cs : List Char) : Bool := cs.all (·.toNat < 0x80)

/-- A mark has nothing to attach to at the beginning. -/
def mayBeShown (cs : List Char) : Bool := ! cs.head?.any Text.isMark && Text.joinersFit [] cs

/-- A label that claims to be Punycode must be what its text would be written as. -/
def ofPunycode (encoded : List Char) : Option Label := do
  let cs ← Punycode.decode encoded
  if isAscii encoded && ! isAscii cs && mapText cs == some cs && Punycode.encode cs == encoded &&
    mayBeShown cs then some ⟨cs, mark ++ encoded⟩ else none

/-- The label of characters that are mapped already. -/
def label (cs : List Char) : Option Label :=
  if mark.isPrefixOf cs then ofPunycode (cs.drop 4)
  else if isAscii cs then some ⟨cs, cs⟩
  else if mayBeShown cs then some ⟨cs, mark ++ Punycode.encode cs⟩
  else none

/-- Where one label goes from right to left, all must show their direction. -/
def areWellDirected (labels : List Label) : Bool :=
  ! labels.any (Text.hasRightward ·.shown) || labels.all (Text.isWellDirected ·.shown)

def toAscii (s : String) : Option (List Char) := do
  let mapped ← mapText s.toList
  let labels ← (mapped.splitOn '.').mapM label
  let text := ['.'].intercalate (labels.map (·.written))
  if text.any isForbidden || ! areWellDirected labels then none else some text

end TrafficWatch.Url.Domain
