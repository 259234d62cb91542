import TrafficWatch.Yaml.Scan

/-!
YAML tokens as a tree. Aliases are replaced by what they stand for.
-/

namespace TrafficWatch.Yaml

inductive Node where
  | scalar (content : String) (style : Style) (tag : Option String)
  | sequence (items : List Node)
  | mapping (members : List (Node × Node))

/-- A node without content. -/
def Node.empty (tag : Option String) : Node := .scalar "" .plain tag

/-- The tokens that are left, with what has been given a name. -/
structure Rest where
  tokens : List Token
  /-- Nodes, latest first. -/
  anchors : List (List Char × Node) := []
  /-- What the handles of tags stand for. -/
  handles : List (List Char × List Char) := []

namespace Rest

def peek (r : Rest) : Token := r.tokens.head?.getD .finish

def next (r : Rest) : Rest := { r with tokens := r.tokens.drop 1 }

def name (r : Rest) (anchor : Option (List Char)) (n : Node) : Rest :=
  match anchor with
  | some a => { r with anchors := (a, n) :: r.anchors }
  | none => r

end Rest

structure Properties where
  anchor : Option (List Char) := none
  tag : Option (List Char × List Char) := none

/-- The full form of a tag, unless its handle is unknown. -/
def Rest.fullTag (r : Rest) (handle suffix : List Char) : Option String :=
  if handle.isEmpty then some (String.ofList suffix)
  else (r.handles.find? (·.1 == handle)).map fun (_, start) => String.ofList (start ++ suffix)

/-- An anchor and a tag, in either order. -/
def readProperties (r : Rest) : Properties × Rest :=
  match r.peek with
  | .anchor a =>
    match r.next.peek with
    | .tag h t => ({ anchor := some a, tag := some (h, t) }, r.next.next)
    | _ => ({ anchor := some a }, r.next)
  | .tag h t =>
    match r.next.peek with
    | .anchor a => ({ anchor := some a, tag := some (h, t) }, r.next.next)
    | _ => ({ tag := some (h, t) }, r.next)
  | _ => ({}, r)

/-- Where a node stands decides which forms it may take. -/
structure Place where
  block : Bool
  /-- A sequence may have its entries at the column of the key before it. -/
  unindented : Bool := false

mutual
def readNode (place : Place) : Nat → Rest → Option (Node × Rest)
  | 0, _ => none
  | fuel + 1, r =>
    match r.peek with
    | .alias a => (r.anchors.find? (·.1 == a)).map fun (_, n) => (n, r.next)
    | _ => do
      let (p, r) := readProperties r
      let tag ← p.tag.mapM fun (handle, suffix) => r.fullTag handle suffix
      let (n, r) ← match r.peek with
        | .scalar content style => some (Node.scalar (String.ofList content) style tag, r.next)
        | .flowSequence => readFlowItems fuel r.next true []
        | .flowMapping => readFlowMembers fuel r.next true []
        | .blockEntry => if place.unindented then readUnindented fuel r [] else none
        | .blockSequence => if place.block then readBlockItems fuel r.next [] else none
        | .blockMapping => if place.block then readBlockMembers fuel r.next [] else none
        | _ => none
        <|> if p.anchor.isSome || p.tag.isSome then some (Node.empty tag, r) else none
      some (n, r.name p.anchor n)

/-- A node, or an empty one if a token follows that ends its place. -/
def readOptional (place : Place) (ends : Token → Bool) : Nat → Rest → Option (Node × Rest)
  | 0, _ => none
  | fuel + 1, r => if ends r.peek then some (.empty none, r) else readNode place fuel r

def readBlockItems : Nat → Rest → List Node → Option (Node × Rest)
  | 0, _, _ => none
  | fuel + 1, r, done =>
    match r.peek with
    | .blockEntry => do
      let (n, r) ← readOptional { block := true } (fun t => t == .blockEntry || t == .blockEnd) fuel r.next
      readBlockItems fuel r (n :: done)
    | .blockEnd => some (.sequence done.reverse, r.next)
    | _ => none

def readUnindented : Nat → Rest → List Node → Option (Node × Rest)
  | 0, _, _ => none
  | fuel + 1, r, done =>
    match r.peek with
    | .blockEntry => do
      let ends := fun t => t == .blockEntry || t == .key || t == .value || t == .blockEnd
      let (n, r) ← readOptional { block := true } ends fuel r.next
      readUnindented fuel r (n :: done)
    | _ => some (.sequence done.reverse, r)

def readBlockMembers : Nat → Rest → List (Node × Node) → Option (Node × Rest)
  | 0, _, _ => none
  | fuel + 1, r, done =>
    let place : Place := { block := true, unindented := true }
    let ends := fun t => t == .key || t == .value || t == .blockEnd
    match r.peek with
    | .key => do
      let (k, r) ← readOptional place ends fuel r.next
      let (v, r) ← if r.peek == .value then readOptional place ends fuel r.next
        else some (.empty none, r)
      readBlockMembers fuel r ((k, v) :: done)
    | .blockEnd => some (.mapping done.reverse, r.next)
    | _ => none

/-- The value after a key in a flow collection that `close` ends. -/
def readFlowValue (close : Token) : Nat → Rest → Option (Node × Rest)
  | 0, _ => none
  | fuel + 1, r =>
    if r.peek == .value then
      readOptional { block := false } (fun t => t == .flowEntry || t == close) fuel r.next
    else some (.empty none, r)

def readFlowItems : Nat → Rest → Bool → List Node → Option (Node × Rest)
  | 0, _, _, _ => none
  | fuel + 1, r, first, done => do
    if r.peek == .flowSequenceEnd then return (.sequence done.reverse, r.next)
    let r ← if first then some r else if r.peek == .flowEntry then some r.next else none
    match r.peek with
    | .flowSequenceEnd => some (.sequence done.reverse, r.next)
    | .key =>
      let ends := fun t => t == .value || t == .flowEntry || t == .flowSequenceEnd
      let (k, r) ← readOptional { block := false } ends fuel r.next
      let (v, r) ← readFlowValue .flowSequenceEnd fuel r
      readFlowItems fuel r false (.mapping [(k, v)] :: done)
    | _ =>
      let (n, r) ← readNode { block := false } fuel r
      readFlowItems fuel r false (n :: done)

def readFlowMembers : Nat → Rest → Bool → List (Node × Node) → Option (Node × Rest)
  | 0, _, _, _ => none
  | fuel + 1, r, first, done => do
    if r.peek == .flowMappingEnd then return (.mapping done.reverse, r.next)
    let r ← if first then some r else if r.peek == .flowEntry then some r.next else none
    match r.peek with
    | .flowMappingEnd => some (.mapping done.reverse, r.next)
    | .key =>
      let ends := fun t => t == .value || t == .flowEntry || t == .flowMappingEnd
      let (k, r) ← readOptional { block := false } ends fuel r.next
      let (v, r) ← readFlowValue .flowMappingEnd fuel r
      readFlowMembers fuel r false ((k, v) :: done)
    | _ =>
      let (k, r) ← readNode { block := false } fuel r
      readFlowMembers fuel r false ((k, .empty none) :: done)
end

def skipEnds (ts : List Token) : List Token := ts.dropWhile (· == .documentEnd)

/-- Whether nothing but ends of documents is left. -/
def isFinished (ts : List Token) : Bool := skipEnds ts == [.finish]

def isDirective : Token → Bool
  | .versionDirective => true
  | .tagDirective _ _ => true
  | _ => false

/-- The handles that directives give a meaning to, and those that have one without. A handle has one
meaning, and a document one version. -/
def handlesOf (directives : List Token) : Option (List (List Char × List Char)) :=
  let given := directives.filterMap fun t =>
    match t with
    | .tagDirective handle start => some (handle, start)
    | _ => none
  let names := given.map (·.1)
  if names.eraseDups.length < names.length || 1 < directives.count .versionDirective then none
  else some (given ++ [("!".toList, "!".toList), ("!!".toList, "tag:yaml.org,2002:".toList)])

def depth (ts : List Token) : Nat := 4 * ts.length + 4

/-- A document that begins with a mark, and may have directives before it. -/
def readMarked (ts : List Token) : Option (Node × Rest) := do
  let handles ← handlesOf (ts.takeWhile isDirective)
  match ts.dropWhile isDirective with
  | .documentStart :: ts =>
    let ends := fun t =>
      isDirective t || t == .documentStart || t == .documentEnd || t == .finish
    readOptional { block := true } ends (depth ts) { tokens := ts, handles }
  | _ => none

def readDocument (ts : List Token) : Option (Node × Rest) :=
  if ts.head?.any fun t => isDirective t || t == .documentStart then readMarked ts
  else do readNode { block := true } (depth ts) { tokens := ts, handles := ← handlesOf [] }

/-- The one document of a text; a text may also have none. -/
def parse (s : String) : Option (Option Node) := do
  let ts ← scan s
  if ts == [.finish] then return none
  let (n, r) ← readDocument ts
  if isFinished r.tokens then some (some n) else none

end TrafficWatch.Yaml
