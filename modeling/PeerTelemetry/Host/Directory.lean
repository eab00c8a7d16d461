import PeerTelemetry.Host.Failure

/-!
# Files of a directory

Reading a file by its path, in a directory whose files are known. A path is followed part
by part: an empty part and a single dot stay where they are, two dots go up, and
any other part has to be a file, which ends the path, or a directory with files below it.
A path and its parts may be too long to be followed at all.

A path from the root leads through the host, of which only the usual directories are
known, and the null device, which reads as an empty file.
-/

namespace PeerTelemetry

/-- **A directory** by the paths of its files, each in its parts, with their contents. -/
structure Directory where
  files : List (List (List Char) × ByteArray)

namespace Directory

/-- The number of bytes from which on a path is too long as a whole. -/
def pathLimit : Nat := 4096

/-- The number of bytes that a part of a path may have. -/
def partLimit : Nat := 255

/-- Whether a part of a path is too long. -/
def isTooLong (part : List Char) : Bool := partLimit < (String.ofList part).utf8ByteSize

/-- The parts of a path. -/
def parts (path : String) : List (List Char) := path.toList.splitOn '/'

/-- A directory of files with the given names. -/
def ofNames (files : List (String × ByteArray)) : Directory :=
  ⟨files.map fun (name, content) => (parts name, content)⟩

/-- The usual directories of a host, each in its parts. -/
def hostDirectories : List (List (List Char)) :=
  ["dev", "etc", "proc", "tmp", "usr"].map fun name => [name.toList]

/-- The null device, in its parts. -/
def nullDevice : List (List Char) := ["dev".toList, "null".toList]

/-- Where following a path has led: a directory, by the parts of its own path, or a
file. -/
inductive Place
  | directory (parts : List (List Char))
  | file (content : ByteArray)
  /-- A place above the directory whose files are known. -/
  | outside
  /-- A directory of the host, by its parts from the root. -/
  | host (parts : List (List Char))

/-- Whether there are files below a path. -/
def hasBelow (d : Directory) (parts : List (List Char)) : Bool :=
  d.files.any fun (path, _) => parts.isPrefixOf path && parts.length < path.length

/-- The place that one part leads to. -/
def follow (d : Directory) (place : Place) (part : List Char) : Except OsError Place :=
  match place with
  | .file _ => .error .notADirectory
  | .outside =>
    if part = [] ∨ part = ['.'] ∨ part = ['.', '.'] then .ok .outside
    else if isTooLong part then .error .nameTooLong
    else .error .noSuchFile
  | .host here =>
    if part = [] ∨ part = ['.'] then .ok (.host here)
    else if part = ['.', '.'] then .ok (.host here.dropLast)
    else if isTooLong part then .error .nameTooLong
    else if here ++ [part] = nullDevice then .ok (.file ByteArray.empty)
    else if here ++ [part] ∈ hostDirectories then .ok (.host (here ++ [part]))
    else .error .noSuchFile
  | .directory here =>
    if part = [] ∨ part = ['.'] then .ok (.directory here)
    else if part = ['.', '.'] then
      if here = [] then .ok .outside else .ok (.directory here.dropLast)
    else if isTooLong part then .error .nameTooLong
    else match d.files.lookup (here ++ [part]) with
      | some content => .ok (.file content)
      | none =>
        if d.hasBelow (here ++ [part]) then .ok (.directory (here ++ [part]))
        else .error .noSuchFile

/-- **Reads a file.** -/
def read (d : Directory) (path : String) : Except FileError ByteArray :=
  if path.toList.contains '\x00' then .error .badPath
  else if path = "" then .error (.os .noSuchFile)
  else if pathLimit ≤ path.utf8ByteSize then .error (.os .nameTooLong)
  else
    let start := if path.toList.head? = some '/' then Place.host [] else .directory []
    match (parts path).foldlM d.follow start with
    | .error e => .error (.os e)
    | .ok (.file content) => .ok content
    | .ok (.directory _) | .ok .outside | .ok (.host _) => .error (.os .isADirectory)

end Directory

end PeerTelemetry
