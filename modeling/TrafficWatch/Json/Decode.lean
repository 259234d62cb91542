import TrafficWatch.Decimal.Shortest
import TrafficWatch.Json.Document
import TrafficWatch.Schema
import TrafficWatch.Text.Quoted
import TrafficWatch.Time.Timestamp

/-!
Typed reading of JSON documents, and what is wrong with a document that does not fit.
-/

namespace TrafficWatch.Json

/-- A value met where another kind was expected. -/
inductive Found where
  | null
  | bool (value : Bool)
  | integer (value : Int)
  | real (value : Float)
  | text (value : String)
  | list
  | object
deriving DecidableEq, Repr

inductive Mismatch where
  | type (found : Found) (expected : String)
  | value (found : Found) (expected : String)
  | length (count : Nat) (expected : String)
  | missing (field : String)
  | duplicate (field : String)
  | timestamp (error : Time.TimestampError)
deriving DecidableEq, Repr

inductive DecodeError where
  | fault (fault : Fault)
  /-- The bytes are not UTF-8. -/
  | encoding
  | data (mismatch : Mismatch)
deriving DecidableEq, Repr

def Found.describe : Found → String
  | .null => "null"
  | .bool b => "boolean `" ++ (if b then "true" else "false") ++ "`"
  | .integer i => "integer `" ++ toString i ++ "`"
  | .real x => "floating point `" ++ Decimal.shortest x ++ "`"
  | .text s => "string " ++ Text.quoted s
  | .list => "sequence"
  | .object => "map"

def Mismatch.message : Mismatch → String
  | .type f e => "invalid type: " ++ f.describe ++ ", expected " ++ e
  | .value f e => "invalid value: " ++ f.describe ++ ", expected " ++ e
  | .length n e => "invalid length " ++ toString n ++ ", expected " ++ e
  | .missing f => "missing field `" ++ f ++ "`"
  | .duplicate f => "duplicate field `" ++ f ++ "`"
  | .timestamp e => e.message

/-- What kind of fault it is. -/
def DecodeError.category : DecodeError → String
  | .fault .ended => "eof"
  | .fault .malformed => "syntax"
  | .encoding => "utf8"
  | .data _ => "data"

def DecodeError.message : DecodeError → String
  | .fault .ended => "the text ends too early"
  | .fault .malformed => "not well-formed"
  | .encoding => "not valid UTF-8"
  | .data m => m.message

def Number.found : Number → Found
  | .integer i => .integer i
  | .real x => .real x

namespace Doc

def liftFault {α : Type} (r : Except Fault α) : Except DecodeError α :=
  match r with
  | .ok a => .ok a
  | .error f => .error (.fault f)

/-- The error for a value of the wrong kind; a scalar that cannot be read is a fault instead. -/
def mismatch (expected : String) (d : Doc) : DecodeError :=
  let wrong := fun f => DecodeError.data (.type f expected)
  match d with
  | .null => wrong .null
  | .bool b => wrong (.bool b)
  | .number v =>
    match v.strict with
    | .ok n => wrong (n.found)
    | .error f => .fault f
  | .text v =>
    match v.strict with
    | .ok s => wrong (.text s)
    | .error f => .fault f
  | .list _ _ => wrong .list
  | .object _ _ => wrong .object
  | .broken f => .fault f

def textOf (expected : String) (d : Doc) : Except DecodeError String :=
  match d with
  | .text v => liftFault v.strict
  | d => .error (d.mismatch expected)

def asText (d : Doc) : Except DecodeError String := d.textOf "a string"

def asFlag (d : Doc) : Except DecodeError Bool :=
  match d with
  | .bool b => .ok b
  | d => .error (d.mismatch "a boolean")

def asInteger (lo hi : Int) (name : String) (d : Doc) : Except DecodeError Int :=
  match d with
  | .number v =>
    match v.strict with
    | .ok (.integer i) =>
      if lo ≤ i ∧ i ≤ hi then .ok i else .error (.data (.value (.integer i) name))
    | _ => .error (d.mismatch name)
  | d => .error (d.mismatch name)

def asNatural (bound : Nat) (name : String) (d : Doc) : Except DecodeError Nat :=
  (d.asInteger 0 bound name).map Int.toNat

def asWord (d : Doc) : Except DecodeError UInt64 :=
  (d.asNatural 18446744073709551615 "u64").map UInt64.ofNat

def asOption {α : Type} (read : Doc → Except DecodeError α) (d : Doc) :
    Except DecodeError (Option α) :=
  match d with
  | .null => .ok none
  | d => (read d).map some

/-- A null stands for the default. -/
def orDefault {α : Type} (default : α) (read : Doc → Except DecodeError α) (d : Doc) :
    Except DecodeError α :=
  (asOption read d).map (·.getD default)

def asInstant (d : Doc) : Except DecodeError Time.Instant := do
  let s ← d.textOf "an RFC 3339 formatted date and time string"
  match Time.Instant.ofText? s with
  | .ok t => pure t
  | .error e => .error (.data (.timestamp e))

def endingError (e : Ending) : Option DecodeError := e.fault?.map .fault

def asList {α : Type} (read : Doc → Except DecodeError α) (d : Doc) :
    Except DecodeError (List α) :=
  match d with
  | .list ds e => do
    let xs ← ds.mapM read
    match endingError e with
    | some e => .error e
    | none => pure xs
  | d => .error (d.mismatch "a sequence")

def memberRules : MemberRules Doc DecodeError where
  skip d := liftFault d.skip
  duplicate name := .data (.duplicate name)
  missing name := .data (.missing name)

def shortList {σ : Type} (s : Schema Doc DecodeError σ) (count : Nat) : DecodeError :=
  let n := s.fields.length
  .data (.length count ("struct " ++ s.name ++ " with " ++ toString n ++
    (if n = 1 then " element" else " elements")))

/-- Members are taken by name. A list gives the fields in order, and must not be longer. -/
def asRecord {σ : Type} (s : Schema Doc DecodeError σ) (d : Doc) : Except DecodeError σ :=
  match d with
  | .object ms e => s.readMembers memberRules (ms.map fun m => (liftFault m.1, m.2)) (endingError e)
  | .list ds e => do
    let r ← Schema.readItems (endingError e) (shortList s) 0 s.fields ds s.blank
    if s.fields.length < ds.length then .error (.fault .malformed)
    else match e with
      | .closed => pure r
      | .cut f => .error (.fault f)
      | .cutAfterComma _ => .error (.fault .malformed)
  | d => .error (d.mismatch ("struct " ++ s.name))

def leaves : Leaves Doc DecodeError where
  text := asText
  path := textOf "path string"
  flag := asFlag
  natural := asNatural
  option := asOption
  record := asRecord

end Doc

/-- Reads a whole text: a value, and nothing but blanks after it. -/
def decode {α : Type} (read : Doc → Except DecodeError α) (s : String) : Except DecodeError α := do
  let t := Text.read s
  let a ← read t.doc
  if t.trailing then .error (.fault .malformed) else pure a

/-- Reads the bytes of a text. -/
def decodeBytes {α : Type} (read : Doc → Except DecodeError α) (b : ByteArray) :
    Except DecodeError α :=
  match String.fromUTF8? b with
  | some s => decode read s
  | none => .error .encoding

end TrafficWatch.Json
