import MicroC.Failure
import MicroC.Path

/-! # File trees

A file tree has files and directories, each at a place, and a working directory, from which paths
that do not start at the top are followed. A path that is too long or that no file can have leads
nowhere, and so does one on whose way something is missing or no directory.
-/

namespace MicroC

/-- What a path leads to. -/
inductive FileStatus where
  | file
  /-- A file that may not be read. No file of a file tree is one. -/
  | unreadable
  | directory
  deriving Repr, DecidableEq

/-- What stands at a place. -/
inductive FileEntry where
  | file (octets : List UInt8)
  | directory
  deriving Repr, DecidableEq

/-- A place: the names on the way to it from the top. -/
abbrev Place := List (List Char)

/-- Files and directories. -/
structure FileTree where
  /-- What stands at each place below the top. -/
  entries : List (Place × FileEntry) := []
  home : Place := []
  deriving Repr

namespace FileTree

/-- What stands at a place; at the top there is a directory. -/
def at? (tree : FileTree) : Place → Option FileEntry
  | [] => some .directory
  | place => tree.entries.lookup place

/-- Put an entry at a place. -/
def put (tree : FileTree) (place : Place) (entry : FileEntry) : FileTree :=
  { tree with entries := (place, entry) :: tree.entries.filter (·.1 ≠ place) }

/-- Follow one component from a place, which has to be a directory. The top is above itself. The
    length of a name matters only once it is looked for. -/
def step (tree : FileTree) (path : String) (place : Place) (component : List Char) :
    Except FileFault Place :=
  match tree.at? place with
  | none => .error (.notFound path)
  | some (.file _) => .error (.notDirectory path)
  | some .directory =>
      if Path.isIdle component then .ok place
      else if component = ['.', '.'] then .ok place.dropLast
      else if Path.nameLimit < Path.octetCount component then .error (.nameTooLong path)
      else .ok (place ++ [component])

/-- The place that a path leads to. Everything on the way is a directory; at the place itself there
    may be nothing. -/
def locate (tree : FileTree) (path : String) : Except Failure Place :=
  if Path.hasNull path then .error (.internal .nullInPath)
  else if path.isEmpty then .error (.file (.notFound path))
  else if Path.lengthLimit < Path.octetCount path.toList then .error (.file (.nameTooLong path))
  else
    let start := if Path.isAbsolute path then [] else tree.home
    ((Path.components path.toList).foldlM (tree.step path) start).mapError Failure.file

/-- What a path leads to. -/
def status (tree : FileTree) (path : String) : Except Failure FileStatus := do
  match tree.at? (← tree.locate path) with
  | none => .error (.file (.notFound path))
  | some (.file _) => .ok .file
  | some .directory => .ok .directory

/-- The octets of the file that a path leads to. -/
def read (tree : FileTree) (path : String) : Except Failure (List UInt8) := do
  match tree.at? (← tree.locate path) with
  | none => .error (.file (.notFound path))
  | some .directory => .error (.file (.isDirectory path))
  | some (.file octets) => .ok octets

/-- Write a file, new or over an old one. -/
def write (tree : FileTree) (path : String) (octets : List UInt8) : Except Failure FileTree := do
  let place ← tree.locate path
  match tree.at? place with
  | some .directory => .error (.file (.isDirectory path))
  | _ => .ok (tree.put place (.file octets))

/-- Make a directory at a place, with everything on the way to it. -/
def makeDirectories (tree : FileTree) (start : Place) : Place → FileTree
  | [] => tree
  | name :: names =>
      let place := start ++ [name]
      (if (tree.at? place).isSome then tree else tree.put place .directory).makeDirectories place names

/-- An empty working directory at a place. -/
def empty (home : Place) : FileTree :=
  ({ home } : FileTree).makeDirectories [] home

/-- Make the directory that a path from the working directory names. -/
def makeDirectory (tree : FileTree) (path : String) : FileTree :=
  tree.makeDirectories tree.home ((Path.components path.toList).filter (!Path.isIdle ·))

/-- The path of a place below the working directory. -/
def pathBelowHome? (tree : FileTree) (place : Place) : Option String :=
  if tree.home.isPrefixOf place then
    some (String.ofList (['/'].intercalate (place.drop tree.home.length)))
  else none

/-- The files below the working directory that are new or differ from an earlier tree. -/
def changedSince (tree earlier : FileTree) : List (String × List UInt8) :=
  tree.entries.filterMap fun (place, entry) =>
    match entry, tree.pathBelowHome? place with
    | .file octets, some path =>
        if earlier.at? place = some (.file octets) then none else some (path, octets)
    | _, _ => none

end FileTree

end MicroC
