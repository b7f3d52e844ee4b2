import TlsIdentity.Entries

/-!
# A directory of files

Files are read by path from one directory. A path is walked component by component: `.` stays, `..`
leaves the directory, and a file is no place to go on from. Outside the directory nothing is known but
that there are directories.
-/

namespace TlsIdentity

/-- The files of a directory: contents by name. -/
abbrev Directory := Entries (List UInt8)

/-- Why a file cannot be read. -/
inductive ReadError where
  | notFound
  | isDirectory
  | notDirectory
  | nameTooLong
  | nulInPath
  /-- Any other reason, in the words of the system. -/
  | other (text : String)
  deriving DecidableEq, Repr

/-- The error as text. -/
def ReadError.message : ReadError → String
  | .notFound => "No such file or directory (os error 2)"
  | .isDirectory => "Is a directory (os error 21)"
  | .notDirectory => "Not a directory (os error 20)"
  | .nameTooLong => "File name too long (os error 36)"
  | .nulInPath => "file name contained an unexpected NUL byte"
  | .other text => text

namespace Directory

/-- Where a walk stands. -/
inductive Place where
  /-- In the directory. -/
  | here
  /-- In some other directory. -/
  | elsewhere
  /-- At a file with these contents. -/
  | file (contents : List UInt8)
  deriving DecidableEq

/-- The most bytes that a component may have. -/
def maxComponent : Nat := 255

/-- A path with this many bytes or more is refused. -/
def pathLimit : Nat := 4096

/-- Go on by one component. An empty one stands for `.`. -/
def walk (files : Directory) : Place → String → Except ReadError Place
  | .file _, _ => .error .notDirectory
  | place, component =>
    if component = "" ∨ component = "." then .ok place
    else if component = ".." then .ok .elsewhere
    else if maxComponent < component.utf8ByteSize then .error .nameTooLong
    else match place, files.get? component with
      | .here, some contents => .ok (.file contents)
      | _, _ => .error .notFound

/-- The contents of the file at `path`. -/
def read (files : Directory) (path : String) : Except ReadError (List UInt8) :=
  if path.toList.contains '\x00' then .error .nulInPath
  else if path = "" then .error .notFound
  else if pathLimit ≤ path.utf8ByteSize then .error .nameTooLong
  else do
    let start := if path.toList.head? = some '/' then Place.elsewhere else Place.here
    let components := (path.toList.splitOn '/').map String.ofList
    match ← components.foldlM files.walk start with
    | .file contents => return contents
    | _ => throw .isDirectory

end Directory

end TlsIdentity
