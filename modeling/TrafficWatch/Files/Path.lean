/-!
Paths as text. Empty components and `.` say nothing beyond "a directory".
-/

namespace TrafficWatch.Files

/-- The components of a path; an absolute path begins at the root. -/
structure Path where
  absolute : Bool
  components : List String
deriving DecidableEq, Repr

namespace Path

def parts (s : String) : List String := (s.toList.splitOn '/').map String.ofList

/-- The most bytes that a name may have, and a path. -/
def maxName : Nat := 255

def maxLength : Nat := 4095

def isNeutral (c : String) : Bool := c == "" || c == "."

/-- A leading `.` of a relative path is kept. -/
def ofText (s : String) : Path :=
  let ps := parts s
  { absolute := s.toList.head? == some '/'
    components := (if ps.head? == some "." then ["."] else []) ++ ps.filter (! isNeutral ·) }

def text (p : Path) : String := (if p.absolute then "/" else "") ++ "/".intercalate p.components

def isEmpty (p : Path) : Bool := ! p.absolute && p.components.isEmpty

def fileName? (p : Path) : Option String :=
  p.components.getLast?.filter fun c => c != ".." && c != "."

/-- What stands before the last dot and after it. A dot in front belongs to the stem. -/
def splitName (name : String) : String × Option String :=
  let cs := name.toList
  let tail := (cs.reverse.takeWhile (· != '.')).reverse
  let stem := cs.take (cs.length - tail.length - 1)
  if stem.isEmpty then (name, none) else (String.ofList stem, some (String.ofList tail))

def extension? (p : Path) : Option String := p.fileName?.bind fun n => (splitName n).2

/-- A path that names no file stays as it is. -/
def withExtension (extension : String) (p : Path) : Path :=
  match p.fileName? with
  | none => p
  | some n =>
    { p with components := p.components.dropLast ++ [(splitName n).1 ++ "." ++ extension] }

def endsInSlash (path : String) : Bool := path.toList.getLast? == some '/'

/-- The slashes at the end are left out, but not the root. -/
def withoutSlash (path : String) : String :=
  let cs := (path.toList.reverse.dropWhile (· == '/')).reverse
  if cs.isEmpty then path else String.ofList cs

/-- A path below a directory. -/
def below (directory file : String) : String :=
  if directory.isEmpty || directory.toList.getLast? == some '/' then directory ++ file
  else directory ++ "/" ++ file

end Path

end TrafficWatch.Files
