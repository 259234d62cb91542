import TrafficWatch.Decimal.Fixed
import TrafficWatch.Text.Ranges

/-!
Internet addresses. Two forms of the older kind are read: the strict one of four decimal numbers,
and the one of hosts, with one to four numbers in decimal, octal or hexadecimal.
-/

namespace TrafficWatch.Url

structure Ipv4 where
  value : Nat
deriving DecidableEq, Repr

namespace Ipv4

def octets (a : Ipv4) : List Nat :=
  [a.value / 0x1000000 % 256, a.value / 0x10000 % 256, a.value / 0x100 % 256, a.value % 256]

def text (a : Ipv4) : String := ".".intercalate (a.octets.map toString)

def ofOctets (ns : List Nat) : Ipv4 := ⟨ns.foldl (fun n m => 256 * n + m) 0⟩

def decimal (cs : List Char) : Nat := cs.foldl (fun n c => 10 * n + (c.toNat - 48)) 0

/-- A number up to 255, without needless zeros. -/
def octet? (cs : List Char) : Option Nat :=
  if cs.isEmpty || 3 < cs.length || ! cs.all Char.isDigit then none
  else if 1 < cs.length && cs.head? == some '0' then none
  else if decimal cs ≤ 255 then some (decimal cs) else none

def strict? (cs : List Char) : Option Ipv4 := do
  let ns ← (cs.splitOn '.').mapM octet?
  if ns.length = 4 then some (ofOctets ns) else none

def isOctal (c : Char) : Bool := '0' ≤ c && c ≤ '7'

def isHex (c : Char) : Bool := c.isDigit || ('a' ≤ c && c ≤ 'f') || ('A' ≤ c && c ≤ 'F')

/-- The value of a number in the base that it begins with. -/
def number? (cs : List Char) : Option Nat :=
  match cs with
  | [] => none
  | '0' :: 'x' :: t | '0' :: 'X' :: t => if t.all isHex then some (Text.hexValue t) else none
  | '0' :: c :: t =>
    if (c :: t).all isOctal then some ((c :: t).foldl (fun n c => 8 * n + (c.toNat - 48)) 0) else none
  | _ => if cs.all Char.isDigit then some (decimal cs) else none

/-- The last number fills all places that are left. -/
def combine (ns : List Nat) : Option Ipv4 :=
  match ns.reverse with
  | [] => none
  | last :: before =>
    if 4 < ns.length || before.any (255 < ·) || Nat.pow 256 (5 - ns.length) ≤ last then none
    else some ⟨before.reverse.zipIdx.foldl (fun v (n, i) => v + n * Nat.pow 256 (3 - i)) last⟩

/-- The parts between the dots; a dot at the end adds none. -/
def parts (cs : List Char) : List (List Char) :=
  let ps := cs.splitOn '.'
  if ps.getLast? = some [] && 1 < ps.length then ps.dropLast else ps

/-- A host whose last part is a number must be an address. -/
def mustBe (cs : List Char) : Bool :=
  match (parts cs).getLast? with
  | none => false
  | some last => (! last.isEmpty && last.all Char.isDigit) || (number? last).isSome

def loose? (cs : List Char) : Option Ipv4 := ((parts cs).mapM number?).bind combine

end Ipv4

/-- Eight groups of sixteen bits. -/
structure Ipv6 where
  groups : List Nat
deriving DecidableEq, Repr

namespace Ipv6

def group? (cs : List Char) : Option Nat :=
  if cs.isEmpty || 4 < cs.length || ! cs.all Ipv4.isHex then none else some (Text.hexValue cs)

/-- Groups between colons. Where `last` allows it, the last two may be written as four numbers. -/
def groups? (last : Bool) (cs : List Char) : Option (List Nat) :=
  if cs.isEmpty then some []
  else
    let ps := cs.splitOn ':'
    let tail := ps.getLast?.getD []
    if last && tail.contains '.' then do
      let front ← ps.dropLast.mapM group?
      let a ← Ipv4.strict? tail
      some (front ++ [a.value / 65536, a.value % 65536])
    else ps.mapM group?

/-- What stands before the first double colon, and what stands after it. -/
def cut : List Char → Option (List Char × List Char)
  | ':' :: ':' :: t => some ([], t)
  | c :: t => (cut t).map fun (a, b) => (c :: a, b)
  | [] => none

/-- A double colon stands for at least one group of zero. -/
def parse? (cs : List Char) : Option Ipv6 :=
  match cut cs with
  | none => do
    let gs ← groups? true cs
    if gs.length = 8 then some ⟨gs⟩ else none
  | some (a, b) => do
    let front ← groups? false a
    let back ← groups? true b
    let n := front.length + back.length
    if n < 8 then some ⟨front ++ List.replicate (8 - n) 0 ++ back⟩ else none

/-- Where the first of the longest runs of zeros begins, and its length. -/
def longestRun (gs : List Nat) : Nat × Nat :=
  let runs := (List.range gs.length).map fun i => (i, ((gs.drop i).takeWhile (· == 0)).length)
  runs.foldl (fun best r => if best.2 < r.2 then r else best) (0, 0)

def hex (n : Nat) : String := String.ofList (Nat.toDigits 16 n)

/-- One zero alone is written out. -/
def text (a : Ipv6) : String :=
  let (i, n) := longestRun a.groups
  if n < 2 then ":".intercalate (a.groups.map hex)
  else ":".intercalate ((a.groups.take i).map hex) ++ "::" ++
    ":".intercalate ((a.groups.drop (i + n)).map hex)

/-- An address of the older kind, wrapped up. -/
def mapped? (a : Ipv6) : Option Ipv4 :=
  match a.groups with
  | [0, 0, 0, 0, 0, 65535, g, h] => some ⟨65536 * g + h⟩
  | _ => none

end Ipv6

/-- An address to listen on. -/
inductive IpAddress where
  | v4 (address : Ipv4)
  | v6 (address : Ipv6)
deriving DecidableEq, Repr

namespace IpAddress

def parse? (s : String) : Option IpAddress :=
  match Ipv4.strict? s.toList with
  | some a => some (.v4 a)
  | none => (Ipv6.parse? s.toList).map .v6

def text : IpAddress → String
  | .v4 a => a.text
  | .v6 a => match a.mapped? with
    | some b => "::ffff:" ++ b.text
    | none => a.text

end IpAddress

end TrafficWatch.Url
