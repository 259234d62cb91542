import TrafficWatch.Outline
import TrafficWatch.Text.Quoted
import TrafficWatch.Yaml.Cursor
import TrafficWatch.Yaml.Meaning

/-!
Outlines as YAML text. A text is printed plain where it would be read back as the same text, and in
quotes or as a block otherwise.
-/

namespace TrafficWatch.Yaml

/-- Characters that are printed as they are. -/
def isShown (c : Char) : Bool :=
  let n := c.toNat
  n == 0x0a || (0x20 ≤ n && n ≤ 0x7e) || (0xa0 ≤ n && n ≤ 0xd7ff) ||
    (0xe000 ≤ n && n ≤ 0xfffd && n != 0xfeff) || 0x10000 ≤ n

/-- White space or nothing. -/
def isGap (c : Option Char) : Bool := c.all fun x => isBlank x || isBreak x || x == '\x00'

/-- Whether two characters with the given properties stand side by side. -/
def adjacent (p q : Char → Bool) (cs : List Char) : Bool :=
  (cs.zip cs.tail).any fun (a, b) => p a && q b

def isSpace (c : Char) : Bool := c == ' '

/-- Characters that must not come first in a plain scalar. -/
def isIndicator (c : Char) : Bool :=
  ['#', ',', '[', ']', '\x7b', '\x7d', '&', '*', '!', '|', '>', '\'', '"', '%', '@', '\x60'].contains c

/-- Characters that must not come first before a gap. -/
def isGapIndicator (c : Char) : Bool := c == '?' || c == ':' || c == '-'

/-- A colon before a gap, or a number sign after one. -/
def hasInnerIndicator : List Char → Bool
  | a :: b :: t =>
    (b == '#' && isGap (some a)) || (b == ':' && isGap t.head?) || hasInnerIndicator (b :: t)
  | _ => false

def canBePlain (cs : List Char) : Bool :=
  let opening := cs.take 3
  opening != "---".toList && opening != "...".toList && ! cs.head?.any isIndicator &&
    ! (cs.head?.any isGapIndicator && isGap cs.tail.head?) && ! hasInnerIndicator cs &&
    ! cs.head?.any isSpace && ! cs.getLast?.any isSpace && ! cs.any isBreak && cs.all isShown

def canBeQuoted (cs : List Char) : Bool :=
  ! adjacent isBreak isSpace cs && ! adjacent isSpace isBreak cs && cs.all isShown

def canBeBlock (cs : List Char) : Bool :=
  ! cs.isEmpty && ! cs.getLast?.any isSpace && ! adjacent isSpace isBreak cs && cs.all isShown

inductive TextStyle where
  | plain
  | single
  | double
  | block
deriving DecidableEq, Repr

/-- A text that would be read as something else is quoted. -/
def styleOf (s : String) : TextStyle :=
  let cs := s.toList
  if cs.contains '\n' then (if canBeBlock cs then .block else .double)
  else if meaning s = .text && ! looksNumeric s && canBePlain cs then .plain
  else if canBeQuoted cs then .single
  else .double

/-- Characters with a line break after which the next line is indented. -/
def onLines (indent : String) (write : Char → String) : Bool → List Char → String
  | _, [] => ""
  | broken, c :: cs =>
    if isBreak c then c.toString ++ onLines indent write true cs
    else (if broken then indent else "") ++ write c ++ onLines indent write false cs

def writeSingle (indent : String) (cs : List Char) : String :=
  let write := fun c => if c == '\'' then "''" else c.toString
  "'" ++ onLines indent write false cs ++ (if cs.getLast?.any isBreak then indent else "") ++ "'"

/-- The letters of the short escapes. -/
def shortEscape (c : Char) : Option Char :=
  ([('\x00', '0'), ('\x07', 'a'), ('\x08', 'b'), ('\t', 't'), ('\n', 'n'), ('\x0b', 'v'),
    ('\x0c', 'f'), ('\r', 'r'), ('\x1b', 'e'), ('"', '"'), ('\\', '\\'), ('\x85', 'N'),
    ('\u2028', 'L'), ('\u2029', 'P')].find? (·.1 == c)).map (·.2)

def escape (c : Char) : String :=
  match shortEscape c with
  | some x => "\\" ++ x.toString
  | none =>
    let digits := fun n => Decimal.padZeros n ((Text.hexText c.toNat).map Char.toUpper)
    if c.toNat ≤ 0xff then "\\x" ++ digits 2
    else if c.toNat ≤ 0xffff then "\\u" ++ digits 4
    else "\\U" ++ digits 8

def writeDouble (cs : List Char) : String :=
  let write := fun c =>
    if ! isShown c || isBreak c || c == '"' || c == '\\' then escape c else c.toString
  "\"" ++ String.join (cs.map write) ++ "\""

/-- The mark of a block says how its first and its last line would be misread. -/
def blockMark (cs : List Char) : String :=
  let first := if cs.head?.any fun c => isSpace c || isBreak c then "2" else ""
  let last := match cs.reverse with
    | [] => "-"
    | c :: above =>
      if ! isBreak c then "-" else if above.head?.all isBreak then "+" else ""
  "|" ++ first ++ last

/-- A text at the end of its line; a block also ends its last line. -/
def writeText (indent s : String) : String :=
  let cs := s.toList
  match styleOf s with
  | .plain => s ++ "\n"
  | .single => writeSingle indent cs ++ "\n"
  | .double => writeDouble cs ++ "\n"
  | .block =>
    blockMark cs ++ "\n" ++ onLines indent Char.toString true cs ++
      (if cs.getLast?.any isBreak then "" else "\n")

def writeEntry (indent : String) : Entry → String
  | .nothing => "null\n"
  | .flag b => (if b then "true" else "false") ++ "\n"
  | .natural n => toString n ++ "\n"
  | .text s => writeText indent s

def writeEntries (indent : String) (es : List (String × Entry)) : String :=
  String.join (es.map fun (name, e) => indent ++ name ++ ": " ++ writeEntry (indent ++ "  ") e)

def write (o : Outline) : String :=
  writeEntries "" o.entries ++
    String.join (o.groups.map fun (name, es) =>
      name ++ ":" ++ (if es.isEmpty then " \x7b\x7d\n" else "\n" ++ writeEntries "  " es))

end TrafficWatch.Yaml
