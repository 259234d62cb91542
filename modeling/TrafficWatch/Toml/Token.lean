import TrafficWatch.Text.Ranges

/-!
The tokens of TOML text. Line breaks are tokens of their own; those inside a text over several lines
are part of the text.
-/

namespace TrafficWatch.Toml

inductive Token where
  | blanks (content : List Char)
  | newline
  | comment
  | equals
  | period
  | comma
  | colon
  | plus
  | openBrace
  | closeBrace
  | openBracket
  | closeBracket
  /-- Letters, digits, hyphens and underscores: a bare key, a number or a flag. -/
  | word (content : List Char)
  | text (content : List Char) (multiline : Bool)
deriving DecidableEq, Repr

def isWordChar (c : Char) : Bool := c.isAlphanum || c == '-' || c == '_'

def isBlank (c : Char) : Bool := c == ' ' || c == '\t'

def isCommentChar (c : Char) : Bool := c == '\t' || 0x20 ≤ c.toNat

def isTextChar (c : Char) : Bool := c == '\t' || (0x20 ≤ c.toNat && c.toNat != 0x7f)

/-- A break of two characters counts as one. -/
def foldBreaks : List Char → List Char
  | '\r' :: '\n' :: t => '\n' :: foldBreaks t
  | c :: t => c :: foldBreaks t
  | [] => []

def isHexDigit (c : Char) : Bool :=
  c.isDigit || ('a' ≤ c && c ≤ 'f') || ('A' ≤ c && c ≤ 'F')

def readHex (count : Nat) (cs : List Char) : Option (List Char × List Char) :=
  let ds := cs.take count
  let v := Text.hexValue ds
  if ds.length = count && ds.all isHexDigit && v.isValidChar then
    some ([Char.ofNat v], cs.drop count)
  else none

/-- What an escape stands for, from after its backslash. In a text over several lines an escaped
line break takes the white space after it along. -/
def readEscape (multiline : Bool) (cs : List Char) : Option (List Char × List Char) :=
  match cs with
  | [] => none
  | c :: t =>
    match [('"', '"'), ('\\', '\\'), ('b', '\x08'), ('f', '\x0c'), ('n', '\n'), ('r', '\r'),
        ('t', '\t')].find? (·.1 == c) with
    | some (_, x) => some ([x], t)
    | none =>
      if c == 'u' then readHex 4 t
      else if c == 'U' then readHex 8 t
      else if multiline then
        match cs.dropWhile isBlank with
        | '\n' :: u => some ([], u.dropWhile fun x => isBlank x || x == '\n')
        | _ => if c != '\n' && (cs.dropWhile isBlank).isEmpty then some ([], []) else none
      else none

/-- The content of a text on one line, up to the closing quote. -/
def readLine (quote : Char) : Nat → List Char → List Char → Option (List Char × List Char)
  | 0, _, _ => none
  | _, [], _ => none
  | fuel + 1, c :: t, done =>
    if c == quote then some (done.reverse, t)
    else if c == '\\' && quote == '"' then do
      let (x, t) ← readEscape false t
      readLine quote fuel t (x.reverse ++ done)
    else if isTextChar c then readLine quote fuel t (c :: done)
    else none

/-- The content of a text over several lines, up to three closing quotes. Up to two more before them
belong to the text. -/
def readLines (quote : Char) : Nat → List Char → List Char → Option (List Char × List Char)
  | 0, _, _ => none
  | _, [], _ => none
  | fuel + 1, c :: t, done =>
    if c == quote then
      let run := (c :: t).takeWhile (· == quote)
      let rest := (c :: t).dropWhile (· == quote)
      if run.length < 3 then readLines quote fuel rest (run ++ done)
      else
        let inside := min (run.length - 3) 2
        some ((run.take inside ++ done).reverse, (c :: t).drop (inside + 3))
    else if c == '\\' && quote == '"' then do
      let (x, t) ← readEscape true t
      readLines quote fuel t (x.reverse ++ done)
    else if isTextChar c || c == '\n' then readLines quote fuel t (c :: done)
    else none

/-- A text from after its first quote. A line break right after three opening quotes is left out. -/
def readText (quote : Char) (cs : List Char) : Option (Token × List Char) :=
  match cs with
  | a :: b :: t =>
    if a == quote && b == quote then
      let t := match t with | '\n' :: u => u | u => u
      (readLines quote (t.length + 1) t []).map fun (content, t) => (.text content true, t)
    else if a == quote then some (.text [] false, b :: t)
    else (readLine quote (cs.length + 1) cs []).map fun (content, t) => (.text content false, t)
  | [a] => if a == quote then some (.text [] false, []) else none
  | [] => none

def single (c : Char) : Option Token :=
  ([('\n', .newline), ('=', .equals), ('.', .period), (',', .comma), (':', .colon), ('+', .plus),
    ('\x7b', .openBrace), ('\x7d', .closeBrace), ('[', .openBracket), (']', .closeBracket)].find?
      (·.1 == c)).map (·.2)

/-- The first token. -/
def readToken (c : Char) (t : List Char) : Option (Token × List Char) :=
  let run := fun (p : Char → Bool) (make : List Char → Token) =>
    some (make (c :: t.takeWhile p), t.dropWhile p)
  if c == '"' || c == '\'' then readText c t
  else if isBlank c then run isBlank .blanks
  else if isWordChar c then run isWordChar .word
  else if c == '#' then some (.comment, t.dropWhile isCommentChar)
  else (single c).map (·, t)

def readTokens : Nat → List Char → Option (List Token)
  | 0, _ => none
  | _, [] => some []
  | fuel + 1, c :: t => do
    let (token, t) ← readToken c t
    (readTokens fuel t).map (token :: ·)

/-- A byte order mark may come first. -/
def tokens (s : String) : Option (List Token) :=
  let cs := foldBreaks s.toList
  let cs := match cs with | '\ufeff' :: t => t | _ => cs
  readTokens (cs.length + 1) cs

end TrafficWatch.Toml
