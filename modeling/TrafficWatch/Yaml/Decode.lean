import TrafficWatch.Schema
import TrafficWatch.Yaml.Meaning
import TrafficWatch.Yaml.Parse

/-!
Typed reading of YAML documents. Whether a scalar is quoted matters to flags, numbers and nulls, and
not to texts.
-/

namespace TrafficWatch.Yaml

inductive DecodeError where
  | malformed
  | unexpected (expected : String)
  | duplicate (field : String)
  | missing (field : String)
deriving DecidableEq, Repr

def DecodeError.message : DecodeError → String
  | .malformed => "not well-formed"
  | .unexpected expected => "expected " ++ expected
  | .duplicate field => "duplicate field " ++ field
  | .missing field => "missing field " ++ field

namespace Node

def standardTag (name : String) : String := "tag:yaml.org,2002:" ++ name

def asText : Node → Except DecodeError String
  | .scalar content _ _ => .ok content
  | _ => .error (.unexpected "a text")

/-- The content of a scalar that may stand for more than a text. -/
def plain? (tag : String) : Node → Option String
  | .scalar content .plain _ => some content
  | .scalar content .literal (some t) => if t == standardTag tag then some content else none
  | _ => none

def asFlag (n : Node) : Except DecodeError Bool :=
  match (n.plain? "bool").bind flag? with
  | some b => .ok b
  | none => .error (.unexpected "a flag")

def asNatural (bound : Nat) (name : String) (n : Node) : Except DecodeError Nat :=
  match ((n.plain? "int").bind fun s => natural? s.toList).filter (· ≤ bound) with
  | some k => .ok k
  | none => .error (.unexpected name)

/-- A scalar tagged as null must also be written as one. -/
def isNothing : Node → Except DecodeError Bool
  | .scalar content .plain none => .ok (content.isEmpty || isNull content)
  | .scalar content .plain (some t) =>
    if t == standardTag "null" then
      if isNull content then .ok true else .error (.unexpected "null")
    else .ok false
  | _ => .ok false

def asOption {α : Type} (read : Node → Except DecodeError α) (n : Node) :
    Except DecodeError (Option α) := do
  if ← n.isNothing then pure none else (read n).map some

def memberRules : MemberRules Node DecodeError where
  skip _ := .ok ()
  duplicate := .duplicate
  missing := .missing

/-- Members are taken by name. An empty scalar is a record without members. -/
def asRecord {σ : Type} (s : Schema Node DecodeError σ) : Node → Except DecodeError σ
  | .mapping ms => s.readMembers memberRules (ms.map fun m => (m.1.asText, m.2)) none
  | .scalar "" .plain _ => s.readMembers memberRules [] none
  | _ => .error (.unexpected s.name)

def leaves : Leaves Node DecodeError where
  text := asText
  path := asText
  flag := asFlag
  natural := asNatural
  option := asOption
  record := asRecord

end Node

/-- Reads a text of at most one document; none at all counts as an empty scalar. -/
def decode {α : Type} (read : Node → Except DecodeError α) (s : String) : Except DecodeError α :=
  match parse s with
  | none => .error .malformed
  | some d => read (d.getD (.empty none))

end TrafficWatch.Yaml
