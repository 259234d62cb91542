import TrafficWatch.Outline
import TrafficWatch.Text.Quoted

/-!
Outlines as TOML text. A text is printed between single quotes, in which nothing is escaped, where
that is possible.
-/

namespace TrafficWatch.Toml

/-- Characters that have no place between single quotes. -/
def needsEscape (c : Char) : Bool :=
  (c.toNat < 0x20 && c != '\t' && c != '\n') || c.toNat == 0x7f

/-- Three single quotes in a row would end a text. -/
def hasTripleQuote : List Char → Bool
  | a :: b :: c :: t => (a == '\'' && b == '\'' && c == '\'') || hasTripleQuote (b :: c :: t)
  | _ => false

def canBeLiteral (cs : List Char) : Bool :=
  ! cs.any needsEscape && ! hasTripleQuote cs && cs.getLast? != some '\''

def escape (c : Char) : String :=
  match [('\x08', "\\b"), ('\t', "\\t"), ('\x0c', "\\f"), ('\r', "\\r"), ('"', "\\\""),
      ('\\', "\\\\")].find? (·.1 == c) with
  | some (_, s) => s
  | none =>
    if c != '\n' && needsEscape c then
      "\\u" ++ Decimal.padZeros 4 ((Text.hexText c.toNat).map Char.toUpper)
    else c.toString

def writeText (s : String) : String :=
  let cs := s.toList
  if canBeLiteral cs then
    if cs.contains '\n' then "'''\n" ++ s ++ "'''"
    else if cs.contains '\'' then "'''" ++ s ++ "'''"
    else "'" ++ s ++ "'"
  else
    let content := String.join (cs.map escape)
    if cs.contains '\n' then "\"\"\"\n" ++ content ++ "\"\"\"" else "\"" ++ content ++ "\""

def writeEntry : Entry → Option String
  | .nothing => none
  | .flag b => some (if b then "true" else "false")
  | .natural n => some (toString n)
  | .text s => some (writeText s)

/-- Entries that stand for nothing are left out. -/
def writeEntries (es : List (String × Entry)) : List String :=
  es.filterMap fun (name, e) => (writeEntry e).map fun s => name ++ " = " ++ s ++ "\n"

def writeGroup (name : String) (es : List (String × Entry)) : String :=
  "[" ++ name ++ "]\n" ++ String.join (writeEntries es)

/-- A blank line stands between the entries and each group. -/
def write (o : Outline) : String :=
  let entries := writeEntries o.entries
  let groups := o.groups.map fun (name, es) => writeGroup name es
  "\n".intercalate ((if entries.isEmpty then [] else [String.join entries]) ++ groups)

end TrafficWatch.Toml
