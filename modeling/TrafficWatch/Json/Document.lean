import TrafficWatch.Json.Token

/-!
JSON documents as read, with their members in order and repeated members kept. A text that breaks
off still has a document: it holds what was read, and the fault at the place where reading stopped.
So whoever walks the document meets what is wrong with it in the order of the text.
-/

namespace TrafficWatch.Json

/-- How a list or object ends. -/
inductive Ending where
  | closed
  | cut (fault : Fault)
  /-- Cut after a comma, where an element should follow. -/
  | cutAfterComma (fault : Fault)
deriving DecidableEq, Repr

inductive Doc where
  | null
  | bool (value : Bool)
  | number (value : Scalar Number)
  | text (value : Scalar String)
  | list (items : List Doc) (ending : Ending)
  | object (members : List (Except Fault String × Doc)) (ending : Ending)
  | broken (fault : Fault)

abbrev Member := Except Fault String × Doc

def Ending.fault? : Ending → Option Fault
  | .closed => none
  | .cut f => some f
  | .cutAfterComma f => some f

namespace Doc

/-- A list or object being read; what it holds so far is in reverse. -/
inductive Frame where
  | list (items : List Doc)
  | object (members : List Member) (key : Option (Except Fault String))

inductive Awaits where
  | value
  | valueOrClose
  | key
  | keyOrClose
  | colon
  | commaOrClose
deriving DecidableEq

/-- Puts a last value into the innermost frame and breaks off all frames there. -/
def collapse (d : Doc) : List Frame → Doc
  | [] => d
  | .list items :: fs => collapse (.list (d :: items).reverse (.cut .malformed)) fs
  | .object ms none :: fs => collapse (.object ms.reverse (.cut .malformed)) fs
  | .object ms (some k) :: fs => collapse (.object ((k, d) :: ms).reverse (.cut .malformed)) fs

/-- Breaks off at a place where something else should stand. -/
def abort (f : Fault) (a : Awaits) : List Frame → Doc
  | [] => .broken f
  | .list items :: fs =>
    collapse (.list items.reverse (if a = .value then .cutAfterComma f else .cut f)) fs
  | .object ms none :: fs => collapse (.object ms.reverse (.cut f)) fs
  | .object ms (some k) :: fs => collapse (.broken f) (.object ms (some k) :: fs)

inductive Step where
  | next (awaits : Awaits) (frames : List Frame)
  | complete (doc : Doc)
  | stop (doc : Doc)

def put (d : Doc) : List Frame → Step
  | [] => .complete d
  | .list items :: fs => .next .commaOrClose (.list (d :: items) :: fs)
  | .object ms none :: fs => .next .commaOrClose (.object ms none :: fs)
  | .object ms (some k) :: fs => .next .commaOrClose (.object ((k, d) :: ms) none :: fs)

def putScalar {α : Type} (v : Scalar α) (d : Doc) (fs : List Frame) : Step :=
  if v.skipped.isSome then .stop (collapse d fs) else put d fs

def closeList (fs : List Frame) : Option Step :=
  match fs with
  | .list items :: rest => some (put (.list items.reverse .closed) rest)
  | _ => none

def closeObject (fs : List Frame) : Option Step :=
  match fs with
  | .object ms none :: rest => some (put (.object ms.reverse .closed) rest)
  | _ => none

/-- A value starts here. -/
def start (fs : List Frame) : Token → Option Step
  | .openList => some (.next .valueOrClose (.list [] :: fs))
  | .openObject => some (.next .keyOrClose (.object [] none :: fs))
  | .null => some (put .null fs)
  | .bool b => some (put (.bool b) fs)
  | .number v => some (putScalar v (.number v) fs)
  | .text v => some (putScalar v (.text v) fs)
  | .stray f => some (.stop (collapse (.broken f) fs))
  | _ => none

/-- A member's name. -/
def name (fs : List Frame) : Token → Option Step
  | .text v =>
    match fs with
    | .object ms none :: rest =>
      match v.skipped with
      | some f => some (.stop (collapse (.broken f) (.object ms (some v.strict) :: rest)))
      | none => some (.next .colon (.object ms (some v.strict) :: rest))
    | _ => none
  | _ => none

def advance (a : Awaits) (fs : List Frame) (t : Token) : Option Step :=
  match a with
  | .value => start fs t
  | .valueOrClose => match t with | .closeList => closeList fs | _ => start fs t
  | .key => name fs t
  | .keyOrClose => match t with | .closeObject => closeObject fs | _ => name fs t
  | .colon => match t with | .colon => some (.next .value fs) | _ => none
  | .commaOrClose =>
    match t, fs with
    | .closeList, _ => closeList fs
    | .closeObject, _ => closeObject fs
    | .comma, .list _ :: _ => some (.next .value fs)
    | .comma, .object _ _ :: _ => some (.next .key fs)
    | _, _ => none

def faultAt : Token → Fault
  | .finish => .ended
  | _ => .malformed

def step (a : Awaits) (fs : List Frame) (t : Token) : Step :=
  (advance a fs t).getD (.stop (abort (faultAt t) a fs))

/-- The document that the tokens make, and the tokens after it. -/
def build : Awaits → List Frame → List Token → Doc × List Token
  | a, fs, [] => (abort .ended a fs, [.finish])
  | a, fs, t :: ts =>
    match step a fs t with
    | .next a fs => build a fs ts
    | .complete d => (d, ts)
    | .stop d => (d, [.finish])

end Doc

/-- A document, and whether more than blanks follows it. -/
structure Text where
  doc : Doc
  trailing : Bool

def Text.read (s : String) : Text :=
  let (d, rest) := Doc.build .value [] (tokens s.toList)
  ⟨d, match rest with | [.finish] => false | _ => true⟩

mutual
/-- Passing over a value finds the faults of its form alone. -/
def Doc.skip : Doc → Except Fault Unit
  | .null => .ok ()
  | .bool _ => .ok ()
  | .number v => v.skipped.elim (.ok ()) .error
  | .text v => v.skipped.elim (.ok ()) .error
  | .list items e => do
    Doc.skipItems items
    e.fault?.elim (.ok ()) .error
  | .object ms e => do
    Doc.skipMembers ms
    e.fault?.elim (.ok ()) .error
  | .broken f => .error f

def Doc.skipItems : List Doc → Except Fault Unit
  | [] => .ok ()
  | d :: ds => do
    Doc.skip d
    Doc.skipItems ds

def Doc.skipMembers : List (Except Fault String × Doc) → Except Fault Unit
  | [] => .ok ()
  | (_, d) :: ms => do
    Doc.skip d
    Doc.skipMembers ms
end

end TrafficWatch.Json
