import Std.Data.ExtTreeMap
import TrafficWatch.Files.Path

/-!
A tree of files and directories, without links, and what can be done to it. Each operation either
succeeds or names its error and leaves the tree as it was.
-/

namespace TrafficWatch.Files

inductive DiskError where
  | notFound
  | notADirectory
  | isADirectory
  | alreadyExists
  | invalidData
  | invalidInput
  | nameTooLong
deriving DecidableEq, Repr

def DiskError.name : DiskError → String
  | .notFound => "NotFound"
  | .notADirectory => "NotADirectory"
  | .isADirectory => "IsADirectory"
  | .alreadyExists => "AlreadyExists"
  | .invalidData => "InvalidData"
  | .invalidInput => "InvalidInput"
  | .nameTooLong => "InvalidFilename"

def DiskError.message : DiskError → String
  | .notFound => "no such file or directory"
  | .notADirectory => "not a directory"
  | .isADirectory => "is a directory"
  | .alreadyExists => "file exists"
  | .invalidData => "not valid UTF-8"
  | .invalidInput => "not a path"
  | .nameTooLong => "file name too long"

inductive Entry where
  | directory
  | file (content : ByteArray)

instance : DecidableEq Entry
  | .directory, .directory => .isTrue rfl
  | .directory, .file _ => .isFalse nofun
  | .file _, .directory => .isFalse nofun
  | .file a, .file b =>
    match ByteArray.instDecidableEq a b with
    | .isTrue h => .isTrue (congrArg Entry.file h)
    | .isFalse h => .isFalse fun e => h (Entry.file.inj e)

/-- The names from the root down to an entry. -/
abbrev Location := List String

/-- The root is always there. -/
structure Disk where
  entries : Std.ExtTreeMap Location Entry
  workingDirectory : Location

namespace Disk

def empty : Disk := ⟨∅, []⟩

def lookup (d : Disk) (l : Location) : Option Entry :=
  if l.isEmpty then some .directory else d.entries[l]?

/-- All but the last name of a path must be directories. -/
def walk (d : Disk) (here : Location) : List String → Except DiskError Location
  | [] => .ok here
  | c :: cs =>
    match d.lookup here with
    | none => .error .notFound
    | some (.file _) => .error .notADirectory
    | some .directory =>
      if Path.maxName < c.utf8ByteSize then .error .nameTooLong
      else d.walk (if Path.isNeutral c then here else if c = ".." then here.dropLast else here ++ [c]) cs

def locate (d : Disk) (path : String) : Except DiskError Location :=
  if path.toList.contains '\x00' then .error .invalidInput
  else if path.isEmpty then .error .notFound
  else if Path.maxLength < path.utf8ByteSize then .error .nameTooLong
  else d.walk (if path.toList.head? = some '/' then [] else d.workingDirectory) (Path.parts path)

def put (d : Disk) (l : Location) (e : Entry) : Disk := { d with entries := d.entries.insert l e }

/-- An entry, with the directories above it. -/
def place (d : Disk) (l : Location) (e : Entry) : Disk :=
  ((List.range l.length).tail.foldl (fun d n => d.put (l.take n) .directory) d).put l e

def readBytes (d : Disk) (path : String) : Except DiskError ByteArray := do
  match d.lookup (← d.locate path) with
  | none => .error .notFound
  | some .directory => .error .isADirectory
  | some (.file b) => pure b

def readText (d : Disk) (path : String) : Except DiskError String := do
  match String.fromUTF8? (← d.readBytes path) with
  | some s => pure s
  | none => .error .invalidData

/-- A path with a slash at its end names no file. -/
def write (d : Disk) (path : String) (content : String) : Except DiskError Disk := do
  let l ← d.locate (Path.withoutSlash path)
  if Path.endsInSlash path then .error .isADirectory
  else match d.lookup l with
    | some .directory => .error .isADirectory
    | _ => pure (d.put l (.file content.toUTF8))

def makeDirectory (d : Disk) (path : String) : Except DiskError Disk := do
  let l ← d.locate path
  match d.lookup l with
  | some _ => .error .alreadyExists
  | none => pure (d.put l .directory)

def isDirectory (d : Disk) (path : String) : Bool :=
  match d.locate path with
  | .ok l => d.lookup l == some .directory
  | .error _ => false

/-- Whether a path leads to a file or a directory. -/
def has (d : Disk) (path : String) : Bool :=
  match d.locate path with
  | .ok l => (d.lookup l).isSome
  | .error _ => false

/-- One directory; it may be there already. -/
def ensureDirectory (d : Disk) (path : String) : Except DiskError Disk :=
  match d.makeDirectory path with
  | .ok d => .ok d
  | .error e => if d.isDirectory path then .ok d else .error e

/-- A directory, and those above it as far as they are missing; the names are given last first.
Directories once made stay, even if a later one cannot be made. -/
def ensureTree (d : Disk) (absolute : Bool) : List String → Disk × Except DiskError Unit
  | [] => (d, .ok ())
  | c :: above =>
    let path := Path.text ⟨absolute, (c :: above).reverse⟩
    match d.ensureDirectory path with
    | .ok d => (d, .ok ())
    | .error .notFound =>
      match d.ensureTree absolute above with
      | (d, .error e) => (d, .error e)
      | (d, .ok ()) =>
        match d.ensureDirectory path with
        | .ok d => (d, .ok ())
        | .error e => (d, .error e)
    | .error e => (d, .error e)

/-- Moves a file, over another file if need be. -/
def moveFile (d : Disk) (source target : String) : Except DiskError Disk := do
  let old ← d.locate source
  let new ← d.locate (Path.withoutSlash target)
  match d.lookup old, d.lookup new with
  | none, _ => .error .notFound
  | some .directory, _ => .error .isADirectory
  | some (.file b), there =>
    if Path.endsInSlash target then .error .notADirectory
    else if there == some .directory then .error .isADirectory
    else pure { d with entries := (d.entries.erase old).insert new (.file b) }

/-- The files below the working directory, by their relative paths. -/
def filesHere (d : Disk) : List (String × ByteArray) :=
  d.entries.toList.filterMap fun (l, e) =>
    match e with
    | .file b =>
      if d.workingDirectory.isPrefixOf l then
        some ("/".intercalate (l.drop d.workingDirectory.length), b)
      else none
    | .directory => none

end Disk

end TrafficWatch.Files
