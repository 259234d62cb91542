import TrafficWatch.Url.Ip
import TrafficWatch.Url.Domain
import TrafficWatch.Url.Form

/-!
Addresses on the web, taken apart the way browsers do it: what is odd is put right where that can
be, and only a host or a port that makes no sense is refused.
-/

namespace TrafficWatch.Url

inductive UrlError where
  | emptyHost
  | invalidDomain
  | invalidIpv4
  | invalidIpv6
  | invalidPort
deriving DecidableEq, Repr

def UrlError.message : UrlError → String
  | .emptyHost => "empty host"
  | .invalidDomain => "invalid international domain name"
  | .invalidIpv4 => "invalid IPv4 address"
  | .invalidIpv6 => "invalid IPv6 address"
  | .invalidPort => "invalid port number"

inductive Scheme where
  | http
  | https
  | ws
  | wss
deriving DecidableEq, Repr

def Scheme.name : Scheme → String
  | .http => "http"
  | .https => "https"
  | .ws => "ws"
  | .wss => "wss"

def Scheme.defaultPort : Scheme → Nat
  | .http | .ws => 80
  | .https | .wss => 443

inductive Host where
  | domain (name : List Char)
  | v4 (address : Ipv4)
  | v6 (address : Ipv6)
deriving DecidableEq, Repr

def Host.text : Host → List Char
  | .domain name => name
  | .v4 a => a.text.toList
  | .v6 a => '[' :: a.text.toList ++ [']']

/-- Texts are kept as they are written in the address. -/
structure Address where
  scheme : Scheme
  username : List Char
  password : List Char
  host : Host
  /-- The port, unless it is the usual one. -/
  port : Option Nat
  /-- At least one segment. -/
  path : List (List Char)
  query : Option (List Char)
  fragment : Option (List Char)
deriving DecidableEq, Repr

def isDot (s : List Char) : Bool := [".", "%2e"].contains (String.ofList (s.map Char.toLower))

def isDoubleDot (s : List Char) : Bool :=
  ["..", ".%2e", "%2e.", "%2e%2e"].contains (String.ofList (s.map Char.toLower))

namespace Address

def userinfo (a : Address) : List Char :=
  if a.username.isEmpty && a.password.isEmpty then []
  else a.username ++ (if a.password.isEmpty then [] else ':' :: a.password) ++ ['@']

def authority (a : Address) : List Char :=
  a.userinfo ++ a.host.text ++
    match a.port with
    | some p => ':' :: (toString p).toList
    | none => []

def pathText (a : Address) : List Char := a.path.flatMap ('/' :: ·)

def text (a : Address) : String :=
  a.scheme.name ++ "://" ++ String.ofList (a.authority ++ a.pathText ++
    (match a.query with | some q => '?' :: q | none => []) ++
    (match a.fragment with | some f => '#' :: f | none => []))

/-- The port that the address leads to. -/
def effectivePort (a : Address) : Nat := a.port.getD a.scheme.defaultPort

/-- Adds pairs to the query. -/
def withPairs (a : Address) (ps : List (String × String)) : Address :=
  { a with query := some (Form.appendAll (a.query.getD []) ps) }

/-- The form that a text takes as one segment. Tabs and line ends are lost. -/
def segment (s : String) : List Char :=
  percentEncode segmentSet (s.toList.filter fun c => ! ['\t', '\n', '\r'].contains c)

/-- Puts a written segment behind a path. Dots alone are resolved as in any other path. -/
def appendSegment (path : List (List Char)) (s : List Char) : List (List Char) :=
  let path := if path = [[]] then [] else path
  if isDoubleDot s then path.dropLast ++ [[]]
  else if isDot s then path ++ [[]]
  else path ++ [s]

/-- Adds segments to the path, after dropping an empty last one. Segments given as dots alone are
passed over; some that lose a tab or a line end become such dots only then. -/
def withSegments (a : Address) (segments : List String) : Address :=
  let base := if a.path ≠ [[]] ∧ a.path.getLast? = some [] then a.path.dropLast else a.path
  let added := (segments.filter fun s => s != "." && s != "..").map segment
  { a with path := added.foldl appendSegment base }

end Address

def isSlash (c : Char) : Bool := c == '/' || c == '\\'

def endsAuthority (c : Char) : Bool := isSlash c || c == '?' || c == '#'

/-- What stands before the last `@`, if there is one, and what stands after it. -/
def splitUserinfo (s : List Char) : Option (List Char) × List Char :=
  if s.contains '@' then
    let host := (s.reverse.takeWhile (· != '@')).reverse
    (some (s.take (s.length - host.length - 1)), host)
  else (none, s)

def parseUserinfo (s : List Char) : List Char × List Char :=
  let name := s.takeWhile (· != ':')
  (percentEncode userinfoSet name,
    percentEncode userinfoSet ((s.drop (name.length + 1))))

/-- The host up to the first colon that is not in brackets, and the rest. -/
def splitHost : Bool → List Char → List Char × List Char
  | _, [] => ([], [])
  | inside, c :: cs =>
    if c == ':' && ! inside then ([], c :: cs)
    else
      let inside := if c == '[' then true else if c == ']' then false else inside
      let (host, rest) := splitHost inside cs
      (c :: host, rest)

def parseHost (s : List Char) : Except UrlError Host :=
  match s with
  | [] => .error .emptyHost
  | '[' :: t =>
    if t.getLast? = some ']' then
      match Ipv6.parse? t.dropLast with
      | some a => .ok (.v6 a)
      | none => .error .invalidIpv6
    else .error .invalidIpv6
  | _ =>
    match (String.fromUTF8? ⟨(percentDecode (Text.bytes (String.ofList s))).toArray⟩).bind
        Domain.toAscii with
    | none => .error .invalidDomain
    | some [] => .error .emptyHost
    | some name =>
      if Ipv4.mustBe name then
        match Ipv4.loose? name with
        | some a => .ok (.v4 a)
        | none => .error .invalidIpv4
      else .ok (.domain name)

/-- The usual port of the scheme need not be named. -/
def parsePort (scheme : Scheme) (s : List Char) : Except UrlError (Option Nat) :=
  match s with
  | [] => .ok none
  | _ :: ds =>
    if ! ds.all Char.isDigit then .error .invalidPort
    else
      let n := Ipv4.decimal ds
      if 65535 < n then .error .invalidPort
      else if ds.isEmpty || n = scheme.defaultPort then .ok none
      else .ok (some n)

def splitSegments (s : List Char) : List (List Char) :=
  s.splitOnP isSlash

/-- Goes through the segments; dots that come last leave an empty segment. -/
def resolveSegments : List (List Char) → List (List Char) → List (List Char)
  | done, [] => done
  | done, s :: rest =>
    let closing := if rest.isEmpty then [[]] else []
    if isDoubleDot s then resolveSegments (done.dropLast ++ closing) rest
    else if isDot s then resolveSegments (done ++ closing) rest
    else resolveSegments (done ++ [percentEncode pathSet s]) rest

def parsePath (s : List Char) : List (List Char) :=
  let s := match s with
    | c :: t => if isSlash c then t else s
    | [] => []
  resolveSegments [] (splitSegments s)

/-- What stands before the first `mark`, and what stands after it, if there is one. -/
def splitAtMark (mark : Char) (s : List Char) : List Char × Option (List Char) :=
  (s.takeWhile (· != mark), match s.dropWhile (· != mark) with | [] => none | _ :: t => some t)

/-- Reads what follows the colon of a scheme. -/
def parse (scheme : Scheme) (s : String) : Except UrlError Address := do
  let kept := s.toList.filter fun c => ! ['\t', '\n', '\r'].contains c
  let kept := kept.dropWhile isSlash
  let authority := kept.takeWhile (! endsAuthority ·)
  let (userinfo, hostAndPort) := splitUserinfo authority
  let (username, password) := parseUserinfo (userinfo.getD [])
  let (hostText, portText) := splitHost false hostAndPort
  let host ← parseHost hostText
  let port ← parsePort scheme portText
  let (beforeFragment, fragment) := splitAtMark '#' (kept.drop authority.length)
  let (path, query) := splitAtMark '?' beforeFragment
  pure {
    scheme, username, password, host, port
    path := parsePath path
    query := query.map (percentEncode querySet)
    fragment := fragment.map (percentEncode fragmentSet) }

end TrafficWatch.Url
