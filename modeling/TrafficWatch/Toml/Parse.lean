import TrafficWatch.Decimal.Literal
import TrafficWatch.Toml.Token

/-!
TOML documents. The tables that follow one another in the text are put together into one tree by
their headers, which must not repeat. Members keep their order, and a key may come twice.
-/

namespace TrafficWatch.Toml

inductive Node where
  | text (value : String)
  | integer (value : Int)
  | real
  | flag (value : Bool)
  | date
  | list (items : List Node)
  /-- Dotted keys may add to a table that such keys have begun. -/
  | table (dotted : Bool) (members : List (String × Node))

abbrev Tokens := List Token

/-- Digits with single underscores between them, and what follows. -/
def digitRun (radix : Nat) (leadingZeros : Bool) (cs : List Char) :
    Option (List Char × List Char) :=
  let isDigit := fun c => isHexDigit c && Text.hexDigitValue c < radix
  let run := cs.takeWhile fun c => isDigit c || c == '_'
  let ds := run.filter (· != '_')
  if ds.isEmpty || run.head? == some '_' || run.getLast? == some '_' ||
      (run.zip run.tail).contains ('_', '_') then none
  else if ! leadingZeros && ds.head? == some '0' && 1 < ds.length then none
  else some (ds, cs.drop run.length)

def splitSign (cs : List Char) : Bool × List Char :=
  match cs with
  | '-' :: t => (true, t)
  | t => (false, t)

/-- Integers are those of 64 bits. -/
def integerOf (i : Int) : Option Node :=
  if -0x8000000000000000 ≤ i ∧ i < 0x8000000000000000 then some (.integer i) else none

def readRadix (radix : Nat) (cs : List Char) : Option Node :=
  match digitRun radix true cs with
  | some (ds, []) =>
    integerOf (ds.foldl (fun n c => radix * n + Text.hexDigitValue c) 0 : Nat)
  | _ => none

def readDecimal (cs : List Char) : Option Node :=
  let (negative, t) := splitSign cs
  match digitRun 10 false t with
  | some (ds, []) =>
    let n : Int := Decimal.digitsValue ds
    integerOf (if negative then -n else n)
  | _ => none

def finiteReal (whole fraction : List Char) (exponent : Int) : Option Node :=
  let s : Decimal.Scientific := ⟨Decimal.digitsValue (whole ++ fraction), exponent - fraction.length⟩
  if s.isFinite then some .real else none

/-- The power of ten after an `e`, which may be all of a word or only its last letter. -/
def readPower (cs : List Char) (ts : Tokens) : Option (Int × Tokens) :=
  let power := fun (cs : List Char) =>
    match digitRun 10 true cs with
    | some (ds, []) => some (Decimal.digitsValue ds : Int)
    | _ => none
  match cs, ts with
  | [], .plus :: .word w :: ts => (power w).map (·, ts)
  | [], .word w :: ts => (power w).map (·, ts)
  | [], _ => none
  | '-' :: cs, ts => (power cs).map (-·, ts)
  | cs, ts => (power cs).map (·, ts)

/-- A number with a fraction or an exponent. -/
def readReal (cs : List Char) (fraction : Option (List Char)) (ts : Tokens) :
    Option (Node × Tokens) := do
  let (whole, rest) ← digitRun 10 false (splitSign cs).2
  let (places, rest) ← match fraction with
    | none => some ([], rest)
    | some f => if rest.isEmpty then digitRun 10 true f else none
  match rest with
  | [] => (finiteReal whole places 0).map (·, ts)
  | c :: rest =>
    if c == 'e' || c == 'E' then
      let (power, ts) ← readPower rest ts
      (finiteReal whole places power).map (·, ts)
    else none

def readNumber (cs : List Char) (ts : Tokens) : Option (Node × Tokens) :=
  match cs with
  | '0' :: 'x' :: ds => (readRadix 16 ds).map (·, ts)
  | '0' :: 'o' :: ds => (readRadix 8 ds).map (·, ts)
  | '0' :: 'b' :: ds => (readRadix 2 ds).map (·, ts)
  | _ =>
    if cs.contains 'e' || cs.contains 'E' then readReal cs none ts
    else match ts with
      | .period :: .word f :: ts => readReal cs (some f) ts
      | .period :: _ => none
      | _ =>
        if ["inf".toList, "nan".toList].contains (splitSign cs).2 then some (.real, ts)
        else (readDecimal cs).map (·, ts)

/-- The parts of a date that stand after its first word. What they say is not looked at. -/
def readDate (colonTaken : Bool) (ts : Tokens) : Option Tokens :=
  let ts := match ts with
    | .blanks [' '] :: .word _ :: ts => ts
    | ts => ts
  let optional := fun (mark : Token) (ts : Tokens) =>
    if ts.head? == some mark then
      match ts.tail with
      | .word _ :: ts => some ts
      | _ => none
    else some ts
  let time := if colonTaken then some ts else if ts.head? == some .colon then some ts.tail else none
  match time with
  | none => some ts
  | some (.word _ :: .colon :: .word _ :: ts) => do
    optional .colon (← optional .plus (← optional .period ts))
  | some _ => none

/-- A letter `t` or a hyphen inside, unless that belongs to a power of ten. -/
def looksLikeDate (cs : List Char) : Bool :=
  let pairs := cs.zip cs.tail
  cs.contains 'T' || cs.contains 't' ||
    (cs.tail.contains '-' && ! pairs.contains ('e', '-') && ! pairs.contains ('E', '-'))

/-- A value that begins with a word. -/
def readWord (cs : List Char) (ts : Tokens) : Option (Node × Tokens) :=
  if cs == "true".toList then some (.flag true, ts)
  else if cs == "false".toList then some (.flag false, ts)
  else if cs == "inf".toList || cs == "nan".toList ||
      cs.head?.any (fun c => c == '-' || c.isDigit) then
    if looksLikeDate cs then (readDate false ts).map (.date, ·)
    else match ts with
      | .colon :: ts => (readDate true ts).map (.date, ·)
      | ts => readNumber cs ts
  else none

def skipBlanks (ts : Tokens) : Tokens :=
  match ts with
  | .blanks _ :: ts => ts
  | ts => ts

def expect (t : Token) (ts : Tokens) : Option Tokens :=
  if ts.head? == some t then some ts.tail else none

/-- Nothing but blanks and a comment up to the end of the line. -/
def endLine (ts : Tokens) : Option Tokens :=
  let ts := match skipBlanks ts with
    | .comment :: ts => ts
    | ts => ts
  match ts with
  | [] => some []
  | .newline :: ts => some ts
  | _ => none

/-- White space, comments and breaks between the items of a list. -/
def skipLines : Tokens → Tokens
  | .blanks _ :: ts => skipLines ts
  | .newline :: ts => skipLines ts
  | .comment :: .newline :: ts => skipLines ts
  | [.comment] => []
  | ts => ts

def readKey (ts : Tokens) : Option (String × Tokens) :=
  match ts with
  | .word w :: ts => some (String.ofList w, ts)
  | .text content false :: ts => some (String.ofList content, ts)
  | _ => none

/-- The further parts of a dotted key, and the blanks after them. -/
def readKeyParts : Nat → Tokens → Option (List String × Tokens)
  | 0, _ => none
  | fuel + 1, ts =>
    match skipBlanks ts with
    | .period :: ts => do
      let (k, ts) ← readKey (skipBlanks ts)
      let (ks, ts) ← readKeyParts fuel ts
      some (k :: ks, ts)
    | ts => some ([], ts)

structure DottedKey where
  first : String
  further : List String

def readDottedKey (ts : Tokens) : Option (DottedKey × Tokens) := do
  let (k, ts) ← readKey ts
  let (ks, ts) ← readKeyParts (ts.length + 1) ts
  some (⟨k, ks⟩, ts)

/-- Adds a value under a dotted key. Tables on the way must have been begun by dotted keys. -/
def insert (n : Node) : String → List String → List (String × Node) → Option (List (String × Node))
  | k, [], ms => some (ms ++ [(k, n)])
  | k, next :: ks, ms =>
    match ms.span (·.1 != k) with
    | (before, (_, .table true inner) :: after) => do
      let inner ← insert n next ks inner
      some (before ++ (k, .table true inner) :: after)
    | (_, _ :: _) => none
    | (_, []) => do
      let inner ← insert n next ks []
      some (ms ++ [(k, .table true inner)])

mutual
def readValue : Nat → Tokens → Option (Node × Tokens)
  | 0, _ => none
  | fuel + 1, ts =>
    match ts with
    | .text content _ :: ts => some (.text (String.ofList content), ts)
    | .word w :: ts => readWord w ts
    | .plus :: .word w :: ts => readNumber w ts
    | .openBrace :: ts =>
      match skipBlanks ts with
      | .closeBrace :: ts => some (.table false [], ts)
      | ts => readInline fuel ts []
    | .openBracket :: ts => readItems fuel ts []
    | _ => none

/-- The members of a table on one line, up to its brace. -/
def readInline : Nat → Tokens → List (String × Node) → Option (Node × Tokens)
  | 0, _, _ => none
  | fuel + 1, ts, done => do
    let (k, ts) ← readDottedKey ts
    let ts ← expect .equals ts
    let (n, ts) ← readValue fuel (skipBlanks ts)
    let done ← insert n k.first k.further done
    match skipBlanks ts with
    | .closeBrace :: ts => some (.table false done, ts)
    | .comma :: ts => readInline fuel (skipBlanks ts) done
    | _ => none

def readItems : Nat → Tokens → List Node → Option (Node × Tokens)
  | 0, _, _ => none
  | fuel + 1, ts, done =>
    match skipLines ts with
    | .closeBracket :: ts => some (.list done.reverse, ts)
    | ts => do
      let (n, ts) ← readValue fuel ts
      match skipLines ts with
      | .comma :: ts => readItems fuel ts (n :: done)
      | .closeBracket :: ts => some (.list (n :: done).reverse, ts)
      | _ => none
end

/-- Members under one header. -/
structure Section where
  header : List String
  /-- The header adds an item to a list of tables. -/
  isItem : Bool
  members : List (String × Node)

/-- A header, from after its bracket to the end of its line. -/
def readHeader (ts : Tokens) : Option (Section × Tokens) := do
  let (isItem, ts) := match ts with
    | .openBracket :: ts => (true, ts)
    | ts => (false, ts)
  let (k, ts) ← readDottedKey (skipBlanks ts)
  let ts ← expect .closeBracket ts
  let ts ← if isItem then expect .closeBracket ts else some ts
  some (⟨k.first :: k.further, isItem, []⟩, ← endLine ts)

/-- All sections, latest first. -/
def readSections : Nat → Tokens → Section → List Section → Option (List Section)
  | 0, _, _, _ => none
  | fuel + 1, ts, current, done =>
    match skipLines ts with
    | [] => some (current :: done)
    | .openBracket :: ts => do
      let (s, ts) ← readHeader ts
      readSections fuel ts s (current :: done)
    | ts => do
      let (k, ts) ← readDottedKey ts
      let ts ← expect .equals ts
      let (n, ts) ← readValue (2 * ts.length + 2) (skipBlanks ts)
      let ms ← insert n k.first k.further current.members
      readSections fuel (← endLine ts) { current with members := ms } done

def Section.below (s : Section) : Section := { s with header := s.header.tail }

def Section.beginsItem (s : Section) : Bool := s.isItem && s.header.isEmpty

mutual
/-- The members of the table that the headers are below of. Its own header comes once at most. -/
def gather : Nat → List Section → Option (List (String × Node))
  | 0, _ => none
  | _, [] => some []
  | fuel + 1, s :: rest =>
    match s.header with
    | [] =>
      if s.isItem || rest.any (·.header.isEmpty) then none
      else (gather fuel rest).map (s.members ++ ·)
    | k :: path => do
      let (mine, others) := (s :: rest).partition (·.header.head? == some k)
      let inner := mine.map Section.below
      let n ← if s.isItem && path.isEmpty then (gatherItems fuel inner).map Node.list
        else (gather fuel inner).map (Node.table false)
      (gather fuel others).map ((k, n) :: ·)

/-- The items of a list of tables, each from its header to the next. -/
def gatherItems : Nat → List Section → Option (List Node)
  | 0, _ => none
  | _, [] => some []
  | fuel + 1, s :: rest => do
    let (mine, later) := rest.span (! ·.beginsItem)
    let ms ← gather fuel ({ s with isItem := false } :: mine)
    (gatherItems fuel later).map (.table false ms :: ·)
end

/-- The members of a document. -/
def parse (s : String) : Option (List (String × Node)) := do
  let ts ← tokens s
  let sections ← readSections (ts.length + 1) ts ⟨[], false, []⟩ []
  let size := sections.foldl (fun n s => n + (s.header.length + 2)) 0
  gather (2 * size + 2) sections.reverse

end TrafficWatch.Toml
