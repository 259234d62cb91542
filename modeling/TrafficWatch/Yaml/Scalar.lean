import TrafficWatch.Text.Ranges
import TrafficWatch.Yaml.Cursor

/-!
Scalars of YAML text: plain, quoted, and blocks of lines. Where a line is folded, one break counts
as a blank, and each further one as a break.
-/

namespace TrafficWatch.Yaml

inductive Style where
  | plain
  | quoted
  | literal
  | folded
deriving DecidableEq, Repr

/-- Blanks and breaks between the parts of a scalar. -/
structure Gap where
  blanks : List Char := []
  /-- The first break, if there was one. -/
  first : Option (List Char) := none
  further : List Char := []

def Gap.text (g : Gap) : List Char :=
  match g.first with
  | none => g.blanks
  | some b =>
    if b == ['\n'] then (if g.further.isEmpty then [' '] else g.further) else b ++ g.further

/-- Takes blanks and breaks. `tabsFrom` is the column before which a tab must not begin a line. -/
def readGap (tabsFrom : Nat) : Nat → Cursor → Gap → Option (Gap × Cursor)
  | 0, _, _ => none
  | fuel + 1, c, g =>
    match c.peek with
    | none => some (g, c)
    | some x =>
      if isBlank x then
        if g.first.isSome then
          if x == '\t' && c.column < tabsFrom then none else readGap tabsFrom fuel (c.skip 1) g
        else readGap tabsFrom fuel (c.skip 1) { g with blanks := g.blanks ++ [x] }
      else if isBreak x then
        let (b, c) := c.readBreak
        if g.first.isSome then readGap tabsFrom fuel c { g with further := g.further ++ b }
        else readGap tabsFrom fuel c { g with first := some b }
      else some (g, c)

/-- How many hexadecimal digits an escape takes. -/
def hexLength (c : Char) : Option Nat :=
  if c == 'x' then some 2 else if c == 'u' then some 4 else if c == 'U' then some 8 else none

def escaped (c : Char) : Option Char :=
  ([('0', '\x00'), ('a', '\x07'), ('b', '\x08'), ('t', '\t'), ('\t', '\t'), ('n', '\n'),
    ('v', '\x0b'), ('f', '\x0c'), ('r', '\r'), ('e', '\x1b'), (' ', ' '), ('"', '"'), ('/', '/'),
    ('\\', '\\'), ('N', '\x85'), ('_', '\xa0'), ('L', '\u2028'), ('P', '\u2029')].find?
      (·.1 == c)).map (·.2)

def isHexDigit (c : Char) : Bool :=
  c.isDigit || ('a' ≤ c && c ≤ 'f') || ('A' ≤ c && c ≤ 'F')

/-- The character after a backslash. -/
def readEscape (c : Cursor) : Option (Char × Cursor) := do
  let x ← c.peek
  match hexLength x with
  | none => (escaped x).map (·, c.skip 1)
  | some n =>
    let ds := (c.skip 1).rest.take n
    if ds.length = n && ds.all isHexDigit then
      let v := Text.hexValue ds
      if v.isValidChar then some (Char.ofNat v, c.skip (n + 1)) else none
    else none

/-- Characters of a quoted scalar up to a gap or the closing quote. Says whether an escaped break
came last. -/
def readQuotedRun (single : Bool) : Nat → Cursor → List Char → Option (List Char × Bool × Cursor)
  | 0, _, _ => none
  | fuel + 1, c, done =>
    if c.gapAt 0 then some (done, false, c)
    else match c.rest with
      | [] => none
      | x :: rest =>
        if single && x == '\'' && rest.head? == some '\'' then
          readQuotedRun single fuel (c.skip 2) (done ++ ['\''])
        else if x == (if single then '\'' else '"') then some (done, false, c)
        else if ! single && x == '\\' then
          if c.breakAt 1 then some (done, true, (c.skip 1).skipBreak)
          else match readEscape (c.skip 1) with
            | none => none
            | some (y, c) => readQuotedRun single fuel c (done ++ [y])
        else readQuotedRun single fuel (c.skip 1) (done ++ [x])

/-- A quoted scalar from after its opening quote. -/
def readQuoted (single : Bool) : Nat → Cursor → List Char → Option (List Char × Cursor)
  | 0, _, _ => none
  | fuel + 1, c, done =>
    if c.atDocumentMark || c.atEnd then none
    else do
      let (done, joined, c) ← readQuotedRun single (c.rest.length + 1) c done
      if ! joined && c.looksAt (if single then '\'' else '"') then some (done, c.skip 1)
      else do
        let start : Gap := if joined then { first := some [] } else {}
        let (g, c) ← readGap 0 (c.rest.length + 1) c start
        readQuoted single fuel c (done ++ g.text)

def isFlowMark (c : Char) : Bool := [',', '[', ']', '\x7b', '\x7d'].contains c

/-- Characters of a plain scalar up to a gap, or up to what ends it. -/
def readPlainRun (inFlow : Bool) : Nat → Cursor → List Char → Option (List Char × Cursor)
  | 0, _, _ => none
  | fuel + 1, c, done =>
    if c.gapAt 0 then some (done, c)
    else match c.rest with
      | [] => some (done, c)
      | x :: rest =>
        if inFlow && x == ':' && rest.head?.any (fun y => isFlowMark y || y == '?') then none
        else if (x == ':' && c.gapAt 1) || (inFlow && isFlowMark x) then some (done, c)
        else readPlainRun inFlow fuel (c.skip 1) (done ++ [x])

/-- A plain scalar that goes on at columns from `column`. Says whether it ended in a gap with a
break. -/
def readPlain (inFlow : Bool) (column : Nat) :
    Nat → Cursor → Gap → List Char → Option (List Char × Bool × Cursor)
  | 0, _, _, _ => none
  | fuel + 1, c, gap, done =>
    if c.atDocumentMark || c.looksAt '#' then some (done, gap.first.isSome, c)
    else do
      let (run, c') ← readPlainRun inFlow (c.rest.length + 1) c []
      let done := if run.isEmpty then done else done ++ gap.text ++ run
      let broken := run.isEmpty && gap.first.isSome
      if c'.atEnd || ! c'.gapAt 0 then some (done, broken, c')
      else do
        let (g, c) ← readGap column (c'.rest.length + 1) c' {}
        if ! inFlow && c.column < column then some (done, g.first.isSome, c)
        else readPlain inFlow column fuel c g done

/-- What becomes of the breaks at the end of a block. -/
inductive Chomp where
  | strip
  | clip
  | keep
deriving DecidableEq, Repr

def chompOf (c : Char) : Option Chomp :=
  if c == '+' then some .keep else if c == '-' then some .strip else none

/-- The chomping and the indentation that a block is given with, in any order. -/
def readBlockHeader (c : Cursor) : Option (Chomp × Option Nat × Cursor) :=
  let digit := fun (c : Cursor) =>
    match c.peek with
    | some x => if x == '0' then none else if x.isDigit then some (some (x.toNat - 48), c.skip 1)
        else some (none, c)
    | none => some (none, c)
  match c.peek.bind chompOf with
  | some chomp => (digit (c.skip 1)).map fun (n, c) => (chomp, n, c)
  | none =>
    match digit c with
    | none => none
    | some (none, c) => some (.clip, none, c)
    | some (some n, c) =>
      match c.peek.bind chompOf with
      | some chomp => some (chomp, some n, c.skip 1)
      | none => some (.clip, some n, c)

structure BlockBreaks where
  breaks : List Char
  widest : Nat
  cursor : Cursor

/-- Empty lines of a block, with the widest column on them. -/
def readBlockBreaks (indent : Option Nat) : Nat → Cursor → List Char → Nat → Option BlockBreaks
  | 0, _, _, _ => none
  | fuel + 1, c, done, widest =>
    let room := match indent with | some n => n - c.column | none => c.rest.length
    let c := c.skip ((c.rest.take room).takeWhile (· == ' ')).length
    let widest := max widest c.column
    if indent.all (c.column < ·) && c.looksAt '\t' then none
    else if c.breakAt 0 then
      let (b, c) := c.readBreak
      readBlockBreaks indent fuel c (done ++ b) widest
    else some ⟨done, widest, c⟩

structure Block where
  text : List Char := []
  leading : List Char := []
  trailing : List Char := []
  /-- The last line began with a blank. -/
  indented : Bool := false

def Block.line (b : Block) (literal : Bool) (content : List Char) (broken trailing : List Char) :
    Block :=
  let blank := content.head?.any isBlank
  let joint :=
    if ! literal && b.leading == ['\n'] && ! b.indented && ! blank then
      (if b.trailing.isEmpty then [' '] else [])
    else b.leading
  { text := b.text ++ joint ++ b.trailing ++ content
    leading := broken
    trailing := trailing
    indented := blank }

def readBlockLines (literal : Bool) (indent : Nat) : Nat → Cursor → Block → Option (Block × Cursor)
  | 0, _, _ => none
  | fuel + 1, c, b =>
    if c.column != indent || c.atEnd then some (b, c)
    else do
      let (content, c) := c.takeWhile (! isBreak ·)
      let (broken, c) := c.readBreak
      let more ← readBlockBreaks (some indent) (c.rest.length + 1) c [] 0
      readBlockLines literal indent fuel more.cursor (b.line literal content broken more.breaks)

/-- A block scalar from after its mark, below a construct at column `parent`, if there is one. -/
def readBlock (literal : Bool) (parent : Option Nat) (c : Cursor) : Option (List Char × Cursor) := do
  let (chomp, given, c) ← readBlockHeader c
  let c := c.skipWhile isBlank
  let c := if c.looksAt '#' then c.skipLine else c
  if ! c.lineEndAt 0 then none
  else do
    let c := c.skipBreak
    let fixed := given.map fun n => n + parent.getD 0
    let first ← readBlockBreaks fixed (c.rest.length + 1) c [] 0
    let least := match parent with | some p => p + 1 | none => 1
    let indent := fixed.getD (max first.widest (max least 1))
    let (b, c) ← readBlockLines literal indent (first.cursor.rest.length + 1) first.cursor
      { trailing := first.breaks }
    let ending := match chomp with
      | .strip => []
      | .clip => b.leading
      | .keep => b.leading ++ b.trailing
    some (b.text ++ ending, c)

end TrafficWatch.Yaml
