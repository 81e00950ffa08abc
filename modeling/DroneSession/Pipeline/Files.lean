import DroneSession.Bytes
import DroneSession.Error

namespace DroneSession

/-!
# Files of a directory

The files that recordings are written to, as a map from names to bytes.  Paths start at one
directory, which holds files and no other directories; `..` leads out of it.

Every path here stands behind that directory and a separator, so that a separator in front of it
adds nothing.  Absolute paths, which would start at the root of the file system, are left out.
-/

/-- The files of one directory; the names of others start with the way to them. -/
structure Files where
  contents : List (String × Bytes)
  deriving DecidableEq

/-- Where a path leads. -/
inductive Place where
  | directory
  /-- A name at the end of a way; a closed one has a separator behind it, as directories may. -/
  | entry (way name : String) (closed : Bool)
  deriving Repr, DecidableEq

namespace Files

/-- A directory without files. -/
def empty : Files where
  contents := []

/-- What the file of a name holds. -/
def named?
    (files : Files)
    (name : String) :
    Option Bytes :=
  (files.contents.find? fun entry => entry.1 == name).map Prod.snd

/-- Give a file new contents. -/
def put
    (files : Files)
    (name : String)
    (bytes : Bytes) :
    Files where
  contents := (name, bytes) :: files.contents.filter fun entry => entry.1 != name

/-- How the system reports that a path leads nowhere. -/
def absent : StreamFault where
  kind := .notFound
  text := "No such file or directory (os error 2)"

/-- How the system reports that a path goes through a file. -/
def notDirectory : StreamFault where
  kind := .notDirectory
  text := "Not a directory (os error 20)"

/-- How the system reports that a path leads to a directory. -/
def isDirectory : StreamFault where
  kind := .isDirectory
  text := "Is a directory (os error 21)"

/-- How the system reports a name or a path that is too long. -/
def tooLong : StreamFault where
  kind := .invalidName
  text := "File name too long (os error 36)"

/-- How a path is refused that the system cannot be asked for. -/
def unusable : StreamFault where
  kind := .invalidInput
  text := "file name contained an unexpected NUL byte"

/-- The greatest length of a name in octets. -/
def longestName : Nat :=
  255

/-- The greatest length of a path in octets. -/
def longestPath : Nat :=
  4095

/-- Go on along a way by a component that has to be a directory. -/
def enter
    (files : Files)
    (way component : String) :
    Except StreamFault String :=
  if component = "." then .ok way
  else if component = ".." then .ok (way ++ "../")
  else if longestName < component.utf8ByteSize then .error tooLong
  else if (files.named? (way ++ component)).isSome then .error notDirectory
  else .error absent

/--
Find out where a path behind the directory leads; its last component need not exist.  Separators in
front of it, as between its components, count as one.
-/
def locate
    (files : Files)
    (path : String) :
    Except StreamFault Place := do
  let components := (path.toList.splitOn '/').map String.ofList
  let given := components.filter fun component => component ≠ ""
  if path.contains '\x00' then
    throw unusable
  else if longestPath < path.utf8ByteSize then
    throw tooLong
  else
    let way ← given.dropLast.foldlM files.enter ""
    match given.getLast? with
    | none => return .directory
    | some name =>
        if name = "." ∨ name = ".." then
          return .directory
        else
          return .entry way name (components.getLast? == some "")

/-- Read the whole file at the end of a path. -/
def read
    (files : Files)
    (path : String) :
    Except StreamFault Bytes := do
  match ← files.locate path with
  | .directory => throw isDirectory
  | .entry way name closed =>
      if longestName < name.utf8ByteSize then
        throw tooLong
      else
        match files.named? (way ++ name) with
        | none => throw absent
        | some bytes => if closed then throw notDirectory else return bytes

/-- Create a file or empty the one that is there; the answer tells its name. -/
def create
    (files : Files)
    (path : String) :
    Except StreamFault (Files × String) := do
  match ← files.locate path with
  | .directory => throw isDirectory
  | .entry way name closed =>
      if closed then
        throw isDirectory
      else if longestName < name.utf8ByteSize then
        throw tooLong
      else
        return (files.put (way ++ name) [], way ++ name)

/-- Write bytes at a position of a file; a gap in front of them reads as zeros. -/
def writeAt
    (files : Files)
    (name : String)
    (position : Nat)
    (bytes : Bytes) :
    Files :=
  let present := (files.named? name).getD []
  let gap := List.replicate (position - present.length) 0
  if bytes.isEmpty then
    files
  else
    files.put name
      (present.take position ++ gap ++ bytes ++ present.drop (position + bytes.length))

end Files

end DroneSession
