/-!
A place in a YAML text, and the classes of characters that its grammar tells apart.
-/

namespace TrafficWatch.Yaml

structure Cursor where
  rest : List Char
  index : Nat := 0
  line : Nat := 0
  column : Nat := 0

def isBreak (c : Char) : Bool :=
  c == '\n' || c == '\r' || c == '\x85' || c == '\u2028' || c == '\u2029'

def isBlank (c : Char) : Bool := c == ' ' || c == '\t'

/-- Characters that a text may contain at all. -/
def isPrintable (c : Char) : Bool :=
  let n := c.toNat
  n == 9 || n == 10 || n == 13 || (0x20 ≤ n && n ≤ 0x7e) || n == 0x85 ||
    (0xa0 ≤ n && n ≤ 0xd7ff) || (0xe000 ≤ n && n ≤ 0xfffd) || 0x10000 ≤ n

namespace Cursor

def peek (c : Cursor) : Option Char := c.rest.head?

def peekAt (c : Cursor) (n : Nat) : Option Char := c.rest[n]?

def looksAt (c : Cursor) (x : Char) : Bool := c.peek == some x

def atEnd (c : Cursor) : Bool := c.rest.isEmpty

def blankAt (c : Cursor) (n : Nat) : Bool := (c.peekAt n).any isBlank

def breakAt (c : Cursor) (n : Nat) : Bool := (c.peekAt n).any isBreak

/-- A break or the end. -/
def lineEndAt (c : Cursor) (n : Nat) : Bool := (c.peekAt n).all isBreak

/-- A blank, a break or the end. -/
def gapAt (c : Cursor) (n : Nat) : Bool := (c.peekAt n).all fun x => isBlank x || isBreak x

/-- Past some characters of the same line. -/
def skip (c : Cursor) (n : Nat) : Cursor :=
  { c with rest := c.rest.drop n, index := c.index + n, column := c.column + n }

/-- Past a line break, which may be of two characters, with what it counts as in a text. -/
def readBreak (c : Cursor) : List Char × Cursor :=
  let next := fun n => { c with rest := c.rest.drop n, index := c.index + n, line := c.line + 1, column := 0 }
  match c.rest with
  | '\r' :: '\n' :: _ => (['\n'], next 2)
  | x :: _ =>
    if x == '\u2028' || x == '\u2029' then ([x], next 1)
    else if isBreak x then (['\n'], next 1)
    else ([], c)
  | [] => ([], c)

def skipBreak (c : Cursor) : Cursor := c.readBreak.2

def takeWhile (c : Cursor) (p : Char → Bool) : List Char × Cursor :=
  let taken := c.rest.takeWhile p
  (taken, c.skip taken.length)

def skipWhile (c : Cursor) (p : Char → Bool) : Cursor := (c.takeWhile p).2

/-- Up to the end of the line. -/
def skipLine (c : Cursor) : Cursor := c.skipWhile (! isBreak ·)

/-- Three hyphens or dots at the start of a line, and a gap after them. -/
def atDocumentMark (c : Cursor) : Bool :=
  c.column == 0 && (["---".toList, "...".toList].contains (c.rest.take 3)) && c.gapAt 3

end Cursor

end TrafficWatch.Yaml
