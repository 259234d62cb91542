import TrafficWatch.Control.Request
import TrafficWatch.Text.Blank
import TrafficWatch.Text.Lossy
import TrafficWatch.Wire.Codec

/-!
What becomes of a request: an answer of the server, or none. An answer that is no success is
explained by what the server says, or else by the name of its status.
-/

namespace TrafficWatch.Control

structure Response where
  status : Nat
  body : ByteArray

inductive Answer where
  | response (r : Response)
  /-- Nobody listens. -/
  | unreachable
  /-- The connection ended before an answer came. -/
  | dropped
  /-- No answer came in time. -/
  | silent

inductive ControlError where
  | client (error : ClientError)
  | unreachable
  | dropped
  | timeout
  | status (code : Nat) (message : String)
  | decode (error : Json.DecodeError)
deriving DecidableEq, Repr

def reasons : List (Nat × String) := [
  (100, "Continue"), (101, "Switching Protocols"), (102, "Processing"), (300, "Multiple Choices"),
  (301, "Moved Permanently"), (302, "Found"), (303, "See Other"), (304, "Not Modified"),
  (305, "Use Proxy"), (307, "Temporary Redirect"), (308, "Permanent Redirect"),
  (400, "Bad Request"), (401, "Unauthorized"), (402, "Payment Required"), (403, "Forbidden"),
  (404, "Not Found"), (405, "Method Not Allowed"), (406, "Not Acceptable"),
  (407, "Proxy Authentication Required"), (408, "Request Timeout"), (409, "Conflict"),
  (410, "Gone"), (411, "Length Required"), (412, "Precondition Failed"),
  (413, "Payload Too Large"), (414, "URI Too Long"), (415, "Unsupported Media Type"),
  (416, "Range Not Satisfiable"), (417, "Expectation Failed"), (418, "I'm a teapot"),
  (421, "Misdirected Request"), (422, "Unprocessable Entity"), (423, "Locked"),
  (424, "Failed Dependency"), (426, "Upgrade Required"), (428, "Precondition Required"),
  (429, "Too Many Requests"), (431, "Request Header Fields Too Large"),
  (451, "Unavailable For Legal Reasons"), (500, "Internal Server Error"),
  (501, "Not Implemented"), (502, "Bad Gateway"), (503, "Service Unavailable"),
  (504, "Gateway Timeout"), (505, "HTTP Version Not Supported"), (506, "Variant Also Negotiates"),
  (507, "Insufficient Storage"), (508, "Loop Detected"), (510, "Not Extended"),
  (511, "Network Authentication Required")]

def reason (status : Nat) : String :=
  ((reasons.find? (·.1 == status)).map (·.2)).getD "unknown error"

namespace Response

def isSuccess (r : Response) : Bool := 200 ≤ r.status && r.status < 300

def text (r : Response) : String := Text.ofBytesLossy r.body.toList

/-- Why a request failed. -/
def explanation (r : Response) : String :=
  match Json.decode Wire.ApiError.read r.text with
  | .ok e => if e.message.isEmpty then unstructured else e.message
  | .error _ => unstructured
where
  unstructured : String :=
    let said := Text.trim r.text
    if said.isEmpty then reason r.status else said

end Response

/-- The body of a successful answer. -/
def Answer.body : Answer → Except ControlError ByteArray
  | .response r => if r.isSuccess then .ok r.body else .error (.status r.status r.explanation)
  | .unreachable => .error .unreachable
  | .dropped => .error .dropped
  | .silent => .error .timeout

/-- The message in a successful answer. -/
def Answer.decode {α : Type} (read : Wire.Reader α) (a : Answer) : Except ControlError α := do
  (Json.decodeBytes read (← a.body)).mapError .decode

def ControlError.message : ControlError → String
  | .client .secret => "invalid secret for authorization header"
  | .client (.address e) => "invalid control API address: " ++ e.message
  | .unreachable => "request failed: no connection"
  | .dropped => "request failed: connection closed"
  | .timeout => "request failed: timed out"
  | .status code m => "control API returned " ++ toString code ++ ": " ++ m
  | .decode _ => "request failed: unexpected answer"

end TrafficWatch.Control
