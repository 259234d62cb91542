import TrafficWatch.Json.Value

/-!
A record to be printed: named entries, and after them named groups of entries. The formats for
configuration files print from it.
-/

namespace TrafficWatch

inductive Entry where
  | nothing
  | flag (value : Bool)
  | natural (value : Nat)
  | text (value : String)
deriving DecidableEq, Repr

structure Outline where
  entries : List (String × Entry)
  groups : List (String × List (String × Entry))
deriving DecidableEq, Repr

namespace Entry

def option {α : Type} (f : α → Entry) : Option α → Entry
  | some a => f a
  | none => .nothing

def json : Entry → Json.Value
  | .nothing => .null
  | .flag b => .bool b
  | .natural n => .nat n
  | .text s => .text s

end Entry

namespace Outline

def json (o : Outline) : Json.Value :=
  let members := fun (es : List (String × Entry)) => es.map fun (name, e) => (name, e.json)
  .object (members o.entries ++ o.groups.map fun (name, es) => (name, .object (members es)))

end Outline

end TrafficWatch
