/-!
Records described by their fields, for reading from any kind of document. A field may be written
under several names, and a field that is given twice is refused under its first name.
-/

namespace TrafficWatch

inductive Presence where
  /-- Must be given. -/
  | required
  /-- May be left out among named members, not in a list. -/
  | optional
  /-- May be left out anywhere. -/
  | defaulted
deriving DecidableEq, Repr

/-- `V` is a value of the document, `E` its kind of error, `σ` the record. -/
structure Field (V E σ : Type) where
  name : String
  aliases : List String
  presence : Presence
  read : V → σ → Except E σ

/-- `blank` is the record before any field is read. -/
structure Schema (V E σ : Type) where
  name : String
  blank : σ
  fields : List (Field V E σ)

variable {V E σ : Type}

namespace Field

/-- A field whose value is read and then put into the record. -/
def make {α : Type} (presence : Presence) (names : List String) (read : V → Except E α)
    (put : α → σ → σ) : Field V E σ where
  name := names.headD ""
  aliases := names.tail
  presence := presence
  read v r := (read v).map (put · r)

def answersTo (f : Field V E σ) (key : String) : Bool :=
  f.name == key || f.aliases.contains key

end Field

/-- What a kind of document does about members. -/
structure MemberRules (V E : Type) where
  skip : V → Except E Unit
  duplicate : String → E
  missing : String → E

namespace Schema

def find? (s : Schema V E σ) (key : String) : Option (Field V E σ) :=
  s.fields.find? (·.answersTo key)

/-- One member; unknown names are passed over. -/
def readMember (s : Schema V E σ) (rules : MemberRules V E) (acc : σ × List String)
    (m : Except E String × V) : Except E (σ × List String) := do
  let key ← m.1
  match s.find? key with
  | none =>
    rules.skip m.2
    pure acc
  | some f =>
    if acc.2.contains f.name then .error (rules.duplicate f.name)
    else do
      let r ← f.read m.2 acc.1
      pure (r, f.name :: acc.2)

def firstMissing (s : Schema V E σ) (seen : List String) : Option String :=
  (s.fields.find? fun f => f.presence == .required && ! seen.contains f.name).map (·.name)

def readMembers (s : Schema V E σ) (rules : MemberRules V E) (ms : List (Except E String × V))
    (ending : Option E) : Except E σ := do
  let (r, seen) ← ms.foldlM (s.readMember rules) (s.blank, [])
  match ending, s.firstMissing seen with
  | some e, _ => .error e
  | none, some name => .error (rules.missing name)
  | none, none => pure r

/-- The fields in order from the items of a list. `short` says what is wrong with a list that ends
before the field of that index. -/
def readItems (ending : Option E) (short : Nat → E) :
    Nat → List (Field V E σ) → List V → σ → Except E σ
  | _, [], _, r => pure r
  | i, f :: fs, v :: vs, r => do readItems ending short (i + 1) fs vs (← f.read v r)
  | i, f :: fs, [], r =>
    match ending with
    | some e => .error e
    | none => if f.presence = .defaulted then readItems ending short (i + 1) fs [] r else .error (short i)

end Schema

/-- How the values inside a document of some kind are read. -/
structure Leaves (V E : Type) where
  text : V → Except E String
  path : V → Except E String
  flag : V → Except E Bool
  /-- A number from zero up to a bound, with the name of its type. -/
  natural : Nat → String → V → Except E Nat
  /-- A null stands for nothing. -/
  option : {α : Type} → (V → Except E α) → V → Except E (Option α)
  record : {σ : Type} → Schema V E σ → V → Except E σ

namespace Leaves

def word (l : Leaves V E) (name : String) (v : V) : Except E UInt64 :=
  (l.natural 18446744073709551615 name v).map UInt64.ofNat

def port (l : Leaves V E) (v : V) : Except E UInt16 := (l.natural 65535 "u16" v).map UInt16.ofNat

end Leaves

end TrafficWatch
