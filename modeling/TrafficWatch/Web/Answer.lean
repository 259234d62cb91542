import TrafficWatch.Json.Value
import TrafficWatch.Web.Route

/-!
Answers of the local HTTP server.
-/

namespace TrafficWatch.Web

inductive Content where
  | text (content : String)
  | json (value : Json.Value)

namespace Content

def type : Content → String
  | .text _ => "text/plain; charset=utf-8"
  | .json _ => "application/json"

def body : Content → String
  | .text s => s
  | .json v => v.compactText

end Content

structure Answer where
  status : Nat
  content : Option Content
  /-- The content is only announced. -/
  headOnly : Bool := false

namespace Answer

def text (status : Nat) (s : String) : Answer := ⟨status, some (.text s), false⟩

def json (v : Json.Value) : Answer := ⟨200, some (.json v), false⟩

def contentType (a : Answer) : Option String := a.content.map Content.type

def body (a : Answer) : String :=
  if a.headOnly then "" else (a.content.map Content.body).getD ""

end Answer

def Refusal.answer : Refusal → Answer
  | .noSuchPath => ⟨404, none, false⟩
  | .wrongMethod => ⟨405, none, false⟩
  | .badQuery => .text 400 "The query cannot be understood.\n"
  | .badSegment => .text 400 "The path is not text.\n"

end TrafficWatch.Web
