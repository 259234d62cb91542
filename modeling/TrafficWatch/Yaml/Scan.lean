import TrafficWatch.Yaml.Scalar

/-!
YAML text as tokens. Indentation becomes the start and end of blocks. A mapping key is known only
when its colon comes: the token for it is then put in at the place where the key began.
-/

namespace TrafficWatch.Yaml

inductive Token where
  | versionDirective
  /-- What a handle stands for in the tags of a document. -/
  | tagDirective (handle start : List Char)
  | documentStart
  | documentEnd
  | blockSequence
  | blockMapping
  | blockEnd
  | flowSequence
  | flowSequenceEnd
  | flowMapping
  | flowMappingEnd
  | blockEntry
  | flowEntry
  | key
  | value
  | alias (name : List Char)
  | anchor (name : List Char)
  /-- Without a handle, the suffix is the whole tag. -/
  | tag (handle suffix : List Char)
  | scalar (content : List Char) (style : Style)
  | finish
deriving DecidableEq, Repr

def isNameChar (c : Char) : Bool := c.isAlphanum || c == '_' || c == '-'

def isUriChar (c : Char) : Bool :=
  isNameChar c || [';', '/', '?', ':', '@', '&', '=', '+', '$', '.', '!', '~', '*', '\'', '(',
    ')'].contains c

/-- The characters of a tag, and what follows them. Two digits come after a percent sign. -/
def readUri (full : Bool) : Nat → List Char → List Char × List Char
  | fuel + 1, '%' :: a :: b :: cs =>
    if isHexDigit a && isHexDigit b then
      let (uri, rest) := readUri full fuel cs
      ('%' :: a :: b :: uri, rest)
    else ([], '%' :: a :: b :: cs)
  | fuel + 1, c :: cs =>
    if isUriChar c || (full && [',', '[', ']'].contains c) then
      let (uri, rest) := readUri full fuel cs
      (c :: uri, rest)
    else ([], c :: cs)
  | _, cs => ([], cs)

/-- A place where a key may have begun. A required one must turn out to be a key. -/
structure KeyPlace where
  token : Nat
  required : Bool
  index : Nat
  line : Nat
  column : Nat

structure Scanner where
  cursor : Cursor
  tokens : Array Token := #[]
  /-- The columns of the open blocks, innermost first. -/
  indents : List Nat := []
  keyAllowed : Bool := true
  /-- One place for each level of flow collections, innermost first, and one for the blocks. -/
  keys : List (Option KeyPlace) := [none]

namespace Scanner

def inFlow (s : Scanner) : Bool := 1 < s.keys.length

def indent (s : Scanner) : Option Nat := s.indents.head?

/-- The first column that is inside the innermost block. -/
def innerColumn (s : Scanner) : Nat := match s.indent with | some n => n + 1 | none => 0

def push (s : Scanner) (t : Token) : Scanner := { s with tokens := s.tokens.push t }

def keyPlace (s : Scanner) : Option KeyPlace := s.keys.head?.join

def setKeyPlace (s : Scanner) (p : Option KeyPlace) : Scanner := { s with keys := p :: s.keys.drop 1 }

/-- Drops the place of a key that was none. -/
def removeKey (s : Scanner) : Option Scanner :=
  match s.keyPlace with
  | some p => if p.required then none else some (s.setKeyPlace none)
  | none => some s

def saveKey (s : Scanner) : Option Scanner :=
  if ! s.keyAllowed then some s
  else do
    let s ← s.removeKey
    let c := s.cursor
    some (s.setKeyPlace (some {
      token := s.tokens.size
      required := ! s.inFlow && s.indent == some c.column
      index := c.index
      line := c.line
      column := c.column }))

/-- A key stays on one line and is not long. -/
def isStale (c : Cursor) (p : KeyPlace) : Bool := p.line < c.line || p.index + 1024 < c.index

def dropStaleKeys (s : Scanner) : Option Scanner := do
  let keys ← s.keys.mapM fun p =>
    match p with
    | some p => if isStale s.cursor p then (if p.required then none else some none) else some (some p)
    | none => some none
  some { s with keys }

/-- Ends the blocks that are further in than a column. -/
def unroll (s : Scanner) (column : Option Nat) : Scanner :=
  if s.inFlow then s
  else
    let closed := s.indents.takeWhile fun n => match column with | some c => c < n | none => true
    { s with
      indents := s.indents.drop closed.length
      tokens := s.tokens ++ (Array.replicate closed.length Token.blockEnd) }

/-- Begins a block if a column is further in than the last one. -/
def roll (s : Scanner) (column : Nat) (place : Nat) (t : Token) : Scanner :=
  if s.inFlow then s
  else if s.indent.all (· < column) then
    { s with indents := column :: s.indents, tokens := s.tokens.insertIdxIfInBounds place t }
  else s

def skip (s : Scanner) (n : Nat) : Scanner := { s with cursor := s.cursor.skip n }

def allowKey (s : Scanner) (allowed : Bool) : Scanner := { s with keyAllowed := allowed }

/-- Past blanks, comments and breaks. -/
def skipGap : Nat → Scanner → Scanner
  | 0, s => s
  | fuel + 1, s =>
    let c := s.cursor
    let c := if c.column == 0 && c.looksAt '\ufeff' then c.skip 1 else c
    let c := c.skipWhile fun x => x == ' ' || ((s.inFlow || ! s.keyAllowed) && x == '\t')
    let c := if c.looksAt '#' then c.skipLine else c
    if c.breakAt 0 then
      skipGap fuel { s with cursor := c.skipBreak, keyAllowed := s.keyAllowed || ! s.inFlow }
    else { s with cursor := c }

/-- Three kinds of handle: `!`, `!!`, and a name between the two marks. -/
def isHandle (cs : List Char) : Bool :=
  cs == ['!'] || (cs.head? == some '!' && 1 < cs.length && cs.getLast? == some '!' &&
    (cs.tail.dropLast).all isNameChar)

def directive (s : Scanner) : Option Scanner := do
  let s ← (s.unroll none).removeKey
  let (line, c) := s.cursor.takeWhile (! isBreak ·)
  let words := ((line.drop 1).splitOnP isBlank).filter (! ·.isEmpty)
  let words := words.takeWhile (·.head? != some '#')
  let t ← match words with
    | [['Y', 'A', 'M', 'L'], version] =>
      if ["1.1".toList, "1.2".toList].contains version then some Token.versionDirective else none
    | [['T', 'A', 'G'], handle, start] =>
      if isHandle handle && readUri true (start.length + 1) start == (start, []) then
        some (.tagDirective handle start) else none
    | _ => none
  some ({ s with cursor := c, keyAllowed := false }.push t)

def documentMark (s : Scanner) : Option Scanner := do
  let s ← (s.unroll none).removeKey
  let t := if s.cursor.looksAt '-' then Token.documentStart else .documentEnd
  some (((s.allowKey false).skip 3).push t)

def openFlow (s : Scanner) (t : Token) : Option Scanner := do
  let s ← s.saveKey
  some ((({ s with keys := none :: s.keys }.allowKey true).skip 1).push t)

def closeFlow (s : Scanner) (t : Token) : Option Scanner := do
  let s ← s.removeKey
  let keys := if s.inFlow then s.keys.drop 1 else s.keys
  some ((({ s with keys }.allowKey false).skip 1).push t)

def flowEntry (s : Scanner) : Option Scanner := do
  let s ← s.removeKey
  some (((s.allowKey true).skip 1).push .flowEntry)

def blockEntry (s : Scanner) : Option Scanner := do
  let s ← if s.inFlow then some s
    else if s.keyAllowed then some (s.roll s.cursor.column s.tokens.size .blockSequence)
    else none
  let s ← s.removeKey
  some (((s.allowKey true).skip 1).push .blockEntry)

def explicitKey (s : Scanner) : Option Scanner := do
  let s ← if s.inFlow then some s
    else if s.keyAllowed then some (s.roll s.cursor.column s.tokens.size .blockMapping)
    else none
  let s ← s.removeKey
  some (((s.allowKey (! s.inFlow)).skip 1).push .key)

def value (s : Scanner) : Option Scanner :=
  match s.keyPlace with
  | some p =>
    let s := { s with tokens := s.tokens.insertIdxIfInBounds p.token .key }
    let s := (s.roll p.column p.token .blockMapping).setKeyPlace none
    some (((s.allowKey false).skip 1).push .value)
  | none => do
    let s ← if s.inFlow then some s
      else if s.keyAllowed then some (s.roll s.cursor.column s.tokens.size .blockMapping)
      else none
    some (((s.allowKey (! s.inFlow)).skip 1).push .value)

def anchorOrAlias (s : Scanner) (make : List Char → Token) : Option Scanner := do
  let s ← s.saveKey
  let (name, c) := (s.cursor.skip 1).takeWhile isNameChar
  let ends := c.gapAt 0 || c.peek.any fun x => ['?', ':', ',', ']', '\x7d', '%', '@', '\x60'].contains x
  if name.isEmpty || ! ends then none
  else some (({ s with cursor := c }.allowKey false).push (make name))

/-- A tag written out between angle brackets. -/
def fullTag (c : Cursor) : Option (Token × Cursor) :=
  match readUri true (c.rest.length + 1) (c.skip 2).rest with
  | ([], _) => none
  | (uri, '>' :: _) => some (.tag [] uri, c.skip (uri.length + 3))
  | _ => none

/-- A tag with a handle before it. A lone mark is a tag of its own. -/
def shortTag (c : Cursor) : Option (Token × Cursor) :=
  let (name, afterName) := (c.skip 1).takeWhile isNameChar
  if afterName.looksAt '!' then
    let (suffix, _) := readUri false (c.rest.length + 1) (afterName.skip 1).rest
    if suffix.isEmpty then none
    else some (.tag ('!' :: name ++ ['!']) suffix, afterName.skip (suffix.length + 1))
  else
    let (more, _) := readUri false (c.rest.length + 1) afterName.rest
    let suffix := name ++ more
    some (if suffix.isEmpty then .tag [] ['!'] else .tag ['!'] suffix, afterName.skip more.length)

def tag (s : Scanner) : Option Scanner := do
  let s ← s.saveKey
  let (t, c) ← if (s.cursor.skip 1).looksAt '<' then fullTag s.cursor else shortTag s.cursor
  if c.gapAt 0 || (s.inFlow && c.looksAt ',') then
    some (({ s with cursor := c }.allowKey false).push t)
  else none

def block (s : Scanner) (literal : Bool) : Option Scanner := do
  let s ← s.removeKey
  let (content, c) ← readBlock literal s.indent (s.cursor.skip 1)
  some (({ s with cursor := c }.allowKey true).push
    (.scalar content (if literal then .literal else .folded)))

def quoted (s : Scanner) (single : Bool) : Option Scanner := do
  let s ← s.saveKey
  let c := s.cursor.skip 1
  let (content, c) ← readQuoted single (c.rest.length + 1) c []
  some (({ s with cursor := c }.allowKey false).push (.scalar content .quoted))

def plain (s : Scanner) : Option Scanner := do
  let s ← s.saveKey
  let (content, broken, c) ← readPlain s.inFlow s.innerColumn (s.cursor.rest.length + 1) s.cursor {} []
  some (({ s with cursor := c }.allowKey broken).push (.scalar content .plain))

def isIndicator (c : Char) : Bool :=
  ['-', '?', ':', ',', '[', ']', '\x7b', '\x7d', '#', '&', '*', '!', '|', '>', '\'', '"', '%', '@',
    '\x60'].contains c

def beginsPlain (s : Scanner) (x : Char) : Bool :=
  ! (isBlank x || isIndicator x) || (x == '-' && ! s.cursor.blankAt 1) ||
    (! s.inFlow && (x == '?' || x == ':') && ! s.cursor.gapAt 1)

/-- The next token, which begins with `x`. -/
def token (s : Scanner) (x : Char) : Option Scanner :=
  let c := s.cursor
  if c.column == 0 && x == '%' then s.directive
  else if c.atDocumentMark then s.documentMark
  else if x == '[' then s.openFlow .flowSequence
  else if x == '\x7b' then s.openFlow .flowMapping
  else if x == ']' then s.closeFlow .flowSequenceEnd
  else if x == '\x7d' then s.closeFlow .flowMappingEnd
  else if x == ',' then s.flowEntry
  else if x == '-' && c.gapAt 1 then s.blockEntry
  else if x == '?' && (s.inFlow || c.gapAt 1) then s.explicitKey
  else if x == ':' && (s.inFlow || c.gapAt 1) then s.value
  else if x == '*' then s.anchorOrAlias .alias
  else if x == '&' then s.anchorOrAlias .anchor
  else if x == '!' then s.tag
  else if x == '|' && ! s.inFlow then s.block true
  else if x == '>' && ! s.inFlow then s.block false
  else if x == '\'' then s.quoted true
  else if x == '"' then s.quoted false
  else if s.beginsPlain x then s.plain
  else none

def close (s : Scanner) : Option (Array Token) := do
  let s ← (s.unroll none).removeKey
  some (s.tokens.push .finish)

def run : Nat → Scanner → Option (Array Token)
  | 0, _ => none
  | fuel + 1, s => do
    let s ← (skipGap (s.cursor.rest.length + 1) s).dropStaleKeys
    match s.cursor.peek with
    | none => s.close
    | some x =>
      let s := s.unroll (some s.cursor.column)
      run fuel (← s.token x)

end Scanner

/-- The tokens of a text, if it is well formed. -/
def scan (s : String) : Option (List Token) :=
  let cs := s.toList
  if cs.all isPrintable then
    (Scanner.run (2 * cs.length + 2) { cursor := { rest := cs } }).map Array.toList
  else none

end TrafficWatch.Yaml
