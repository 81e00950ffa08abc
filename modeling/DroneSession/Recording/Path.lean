namespace DroneSession

/-!
# Paths of recordings

A recording gets its extension unless the path already has one or names no file.  A path ends in a
file name if its last component, apart from trailing separators and components `.`, is neither empty
nor `.` nor `..`.
-/

namespace RecordingPath

/-- The extension of recordings, with its dot. -/
def extension : List Char :=
  ".ardrone".toList

/-- Drop trailing separators and trailing components `.` of a path that is written backwards. -/
def dropTrailing : List Char → List Char
  | '/' :: rest => dropTrailing rest
  | '.' :: '/' :: rest => dropTrailing rest
  | path => path

/-- A path up to its last component. -/
def trunk (path : List Char) : List Char :=
  (dropTrailing path.reverse).reverse

/-- The last component of a path, whatever blank pieces follow it. -/
def lastComponent (path : List Char) : List Char :=
  ((dropTrailing path.reverse).takeWhile (· != '/')).reverse

/-- The file name of a path, if it names a file. -/
def fileName? (path : List Char) : Option (List Char) :=
  let component := lastComponent path
  if component = [] ∨ component = ['.'] ∨ component = ['.', '.'] then
    none
  else
    some component

/-- Whether a file name has an extension, which may be empty. -/
def hasExtension (name : List Char) : Bool :=
  (name.drop 1).contains '.'

/-- Give a path the extension of recordings unless it has an extension or names no file. -/
def normalize (path : List Char) : List Char :=
  match fileName? path with
  | none => path
  | some name =>
      if hasExtension name then
        path
      else
        trunk path ++ extension

end RecordingPath

/-- The path at which a recording is made. -/
def recordingPath (path : String) : String :=
  String.ofList (RecordingPath.normalize path.toList)

end DroneSession
