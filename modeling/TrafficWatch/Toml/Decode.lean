import TrafficWatch.Schema
import TrafficWatch.Toml.Parse

/-!
Typed reading of TOML documents. There is no null: a field that stands for nothing is left out.
-/

namespace TrafficWatch.Toml

inductive DecodeError where
  | malformed
  | unexpected (expected : String)
  | length (count : Nat)
  | duplicate (field : String)
  | missing (field : String)
deriving DecidableEq, Repr

def DecodeError.message : DecodeError → String
  | .malformed => "not well-formed"
  | .unexpected expected => "expected " ++ expected
  | .length count => "a list of " ++ toString count ++ " elements"
  | .duplicate field => "duplicate field " ++ field
  | .missing field => "missing field " ++ field

namespace Node

def asText : Node → Except DecodeError String
  | .text s => .ok s
  | _ => .error (.unexpected "a text")

def asFlag : Node → Except DecodeError Bool
  | .flag b => .ok b
  | _ => .error (.unexpected "a flag")

def asNatural (bound : Nat) (name : String) : Node → Except DecodeError Nat
  | .integer i => if 0 ≤ i ∧ i ≤ bound then .ok i.toNat else .error (.unexpected name)
  | _ => .error (.unexpected name)

def asOption {α : Type} (read : Node → Except DecodeError α) (n : Node) :
    Except DecodeError (Option α) := (read n).map some

def memberRules : MemberRules Node DecodeError where
  skip _ := .ok ()
  duplicate := .duplicate
  missing := .missing

/-- Members are taken by name, the items of a list in order. A date has no members of its own. -/
def asRecord {σ : Type} (s : Schema Node DecodeError σ) : Node → Except DecodeError σ
  | .table _ ms => s.readMembers memberRules (ms.map fun m => (.ok m.1, m.2)) none
  | .date => s.readMembers memberRules [] none
  | .list ns =>
    if s.fields.length < ns.length then .error (.length ns.length)
    else Schema.readItems none .length 0 s.fields ns s.blank
  | _ => .error (.unexpected s.name)

def leaves : Leaves Node DecodeError where
  text := asText
  path := asText
  flag := asFlag
  natural := asNatural
  option := asOption
  record := asRecord

end Node

def decode {α : Type} (read : Node → Except DecodeError α) (s : String) : Except DecodeError α :=
  match parse s with
  | none => .error .malformed
  | some ms => read (.table false ms)

end TrafficWatch.Toml
