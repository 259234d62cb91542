import TrafficWatch.Url.Percent

/-!
Pairs of texts as a query: `name=value&name=value`, with `+` for a blank.
-/

namespace TrafficWatch.Url.Form

def isPlain (b : UInt8) : Bool :=
  (48 ≤ b && b ≤ 57) || (65 ≤ b && b ≤ 90) || (97 ≤ b && b ≤ 122) ||
    b == 42 || b == 45 || b == 46 || b == 95

def encodeByte (b : UInt8) : List Char :=
  if isPlain b then [Char.ofNat b.toNat] else if b == 32 then ['+'] else percentByte b

def encode (s : String) : List Char := (Text.bytes s).flatMap encodeByte

def encodePair (p : String × String) : List Char := encode p.1 ++ '=' :: encode p.2

/-- Adds a pair to what there is of a query already. -/
def append (query : List Char) (p : String × String) : List Char :=
  if query.isEmpty then encodePair p else query ++ '&' :: encodePair p

def appendAll (query : List Char) (ps : List (String × String)) : List Char := ps.foldl append query

def decode (bs : List UInt8) : String :=
  Text.ofBytesLossy (percentDecode (bs.map fun b => if b == 43 then 32 else b))

/-- What stands before the first `=`, and what stands after it. -/
def splitPair (bs : List UInt8) : List UInt8 × List UInt8 :=
  (bs.takeWhile (· != 61), (bs.dropWhile (· != 61)).drop 1)

/-- Empty parts of a query are passed over. -/
def parse (query : String) : List (String × String) :=
  (((Text.bytes query).splitOn 38).filter (! ·.isEmpty)).map fun part =>
    let (name, value) := splitPair part
    (decode name, decode value)

end TrafficWatch.Url.Form
