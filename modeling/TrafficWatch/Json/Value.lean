import TrafficWatch.Decimal.Shortest
import TrafficWatch.Text.Quoted
import TrafficWatch.Time.Instant

/-!
JSON values to be written, compactly or over indented lines.
-/

namespace TrafficWatch.Json

inductive Value where
  | null
  | bool (value : Bool)
  | integer (value : Int)
  | real (value : Float)
  | text (value : String)
  | list (items : List Value)
  | object (members : List (String × Value))
deriving Inhabited

namespace Value

def nat (n : Nat) : Value := .integer n

def word (n : UInt64) : Value := .integer n.toNat

def option {α : Type} (write : α → Value) : Option α → Value
  | some a => write a
  | none => .null

def instant (t : Time.Instant) : Value := .text t.text

def escape (c : Char) : String :=
  if c = '"' then "\\\""
  else if c = '\\' then "\\\\"
  else if c = '\x08' then "\\b"
  else if c = '\x0c' then "\\f"
  else if c = '\n' then "\\n"
  else if c = '\r' then "\\r"
  else if c = '\t' then "\\t"
  else if c.toNat < 0x20 then "\\u" ++ Decimal.padZeros 4 (Text.hexText c.toNat)
  else c.toString

def quote (s : String) : String := "\"" ++ String.join (s.toList.map escape) ++ "\""

/-- Only finite numbers can be written. -/
def realText (x : Float) : String :=
  if x.isFinite then Decimal.shortest x else "null"

/-- How the elements of a list or object are laid out. -/
structure Layout where
  /-- Before an element, at a depth. -/
  before : Nat → String
  afterColon : String

def compact : Layout := ⟨fun _ => "", ""⟩

def pretty : Layout := ⟨fun depth => "\n" ++ String.ofList (List.replicate (2 * depth) ' '), " "⟩

mutual
def write (l : Layout) (depth : Nat) : Value → String
  | .null => "null"
  | .bool b => if b then "true" else "false"
  | .integer i => toString i
  | .real x => realText x
  | .text s => quote s
  | .list [] => "[]"
  | .list (v :: vs) =>
    "[" ++ l.before (depth + 1) ++ write l (depth + 1) v ++ writeItems l (depth + 1) vs ++
      l.before depth ++ "]"
  | .object [] => "\x7b\x7d"
  | .object ((k, v) :: ms) =>
    "\x7b" ++ l.before (depth + 1) ++ quote k ++ ":" ++ l.afterColon ++ write l (depth + 1) v ++
      writeMembers l (depth + 1) ms ++ l.before depth ++ "\x7d"

def writeItems (l : Layout) (depth : Nat) : List Value → String
  | [] => ""
  | v :: vs => "," ++ l.before depth ++ write l depth v ++ writeItems l depth vs

def writeMembers (l : Layout) (depth : Nat) : List (String × Value) → String
  | [] => ""
  | (k, v) :: ms =>
    "," ++ l.before depth ++ quote k ++ ":" ++ l.afterColon ++ write l depth v ++
      writeMembers l depth ms
end

def compactText (v : Value) : String := write compact 0 v

def prettyText (v : Value) : String := write pretty 0 v

end Value

end TrafficWatch.Json
