/-!
Files as a lookup from paths to contents, and the lookup that a directory of named contents gives. A path
is followed part by part, from the root or from the directory; an empty part and a dot stay where they
are, two dots go up, and only a directory can be gone through.
-/

namespace HexPattern

/-- Why a file cannot be read. -/
inductive FileError where
  | notFound
  | notDirectory
  | isDirectory
  /-- The path or one of its parts has too many bytes. -/
  | nameTooLong
  /-- The path holds the character that ends paths. -/
  | nameWithNul
  /-- The contents are no UTF-8. -/
  | notText
  /-- Anything else, in the words of the system. -/
  | other (message : String)
deriving DecidableEq, Repr

/-- The error in words. -/
def FileError.message : FileError → String
  | notFound => "No such file or directory (os error 2)"
  | notDirectory => "Not a directory (os error 20)"
  | isDirectory => "Is a directory (os error 21)"
  | nameTooLong => "File name too long (os error 36)"
  | nameWithNul => "file name contained an unexpected NUL byte"
  | notText => "stream did not contain valid UTF-8"
  | other message => message

/-- The contents at each path. -/
abbrev Files := String → Except FileError ByteArray

/-- The text at a path. -/
def Files.readText (files : Files) (path : String) : Except FileError String := do
  match String.fromUTF8? (← files path) with
  | some text => return text
  | none => throw .notText

/-- A directory of named contents. A name with slashes stands for a file in a directory below. -/
structure Directory where
  entries : List (String × ByteArray)

/-- What stands somewhere among the files. -/
inductive Node where
  | file (contents : ByteArray)
  | directory

/-- A place among the files: the names that lead to it from the root. -/
abbrev Place := List (List Char)

/-- The directories that every system has at its root. -/
def rootNames : List String :=
  ["bin", "boot", "dev", "etc", "home", "lib", "media", "mnt", "opt", "proc", "root", "run", "sbin",
    "srv", "sys", "tmp", "usr", "var"]

/-- The place of the device that is always empty. -/
def emptyDevice : Place := ["dev".toList, "null".toList]

/-- The most bytes that one part of a path may have. -/
def maxPartSize : Nat := 255

/-- The most bytes that a path may have. -/
def maxPathSize : Nat := 4095

namespace Directory

/-- The parts of a path between its slashes. -/
def parts (path : List Char) : List (List Char) :=
  match path with
  | [] => [[]]
  | c :: rest =>
    if c = '/' then [] :: parts rest
    else match parts rest with
      | [] => [[c]]
      | part :: more => (c :: part) :: more

/-- The place of the directory itself. It is kept among the temporary files under a name that nobody
knows; here that is the empty name, which no path can spell. -/
def home : Place := ["tmp".toList, []]

/-- The contents under a name, given as its parts. -/
def file? (directory : Directory) (name : List (List Char)) : Option ByteArray :=
  (directory.entries.find? fun entry => parts entry.1.toList = name).map (·.2)

/-- Whether a name, given as its parts, leads to a directory. -/
def hasDirectory (directory : Directory) (name : List (List Char)) : Bool :=
  name.isEmpty || directory.entries.any fun entry =>
    let parts := parts entry.1.toList
    name.isPrefixOf parts && name.length < parts.length

/-- What stands in the directory under a name, given as its parts. -/
def entry? (directory : Directory) (name : List (List Char)) : Option Node :=
  match directory.file? name with
  | some contents => some (.file contents)
  | none => if directory.hasDirectory name then some .directory else none

/-- What stands at a place. Of all that is outside of the directory only the directories at the root and
the empty device are known. -/
def node? (directory : Directory) : Place → Option Node
  | [] => some .directory
  | [name] => if rootNames.contains (String.ofList name) then some .directory else none
  | top :: name :: rest =>
    if [top, name] = home then directory.entry? rest
    else if top :: name :: rest = emptyDevice then some (.file ByteArray.empty)
    else none

/-- The place that a part of a path leads to. -/
def step (place : Place) (part : List Char) : Place :=
  if part = [] || part = ['.'] then place
  else if part = ['.', '.'] then place.dropLast
  else place ++ [part]

/-- Follows the parts of a path from a place and what stands there. -/
def follow (directory : Directory) (place : Place) (node : Node) :
    List (List Char) → Except FileError ByteArray
  | [] =>
    match node with
    | .file contents => .ok contents
    | .directory => .error .isDirectory
  | part :: rest =>
    match node with
    | .file _ => .error .notDirectory
    | .directory =>
      if maxPartSize < (String.ofList part).utf8ByteSize then .error .nameTooLong
      else match directory.node? (step place part) with
        | none => .error .notFound
        | some node => directory.follow (step place part) node rest

/-- The files that a program finds that runs in the directory. -/
def files (directory : Directory) : Files := fun path =>
  if path.toList.contains '\x00' then .error .nameWithNul
  else if path.isEmpty then .error .notFound
  else if maxPathSize < path.utf8ByteSize then .error .nameTooLong
  else match path.toList with
    | '/' :: rest => directory.follow [] .directory (parts rest)
    | path => directory.follow home .directory (parts path)

end Directory

end HexPattern
