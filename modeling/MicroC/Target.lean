import MicroC.Failure

/-! # Targets

A target fixes how symbols are written, whatever the program is.
-/

namespace MicroC

/-- The conventions of a platform. -/
structure Target where
  /-- The short name, as options give it. -/
  name : String
  triple : String
  /-- What stands before every global symbol. -/
  symbolPrefix : String
  description : String
  deriving Repr, DecidableEq

namespace Target

/-- The assembler symbol for a name. -/
def symbol (target : Target) (name : String) : String :=
  target.symbolPrefix ++ name

/-- Symbols are written as they are. -/
def linux : Target where
  name := "linux"
  triple := "x86_64-pc-linux-gnu"
  symbolPrefix := ""
  description := "x86-64 ELF (GNU as)"

/-- Symbols start with an underscore. -/
def darwin : Target where
  name := "darwin"
  triple := "x86_64-apple-darwin"
  symbolPrefix := "_"
  description := "x86-64 Mach-O (Apple as)"

/-- The known targets, by name. -/
def known : List Target := [darwin, linux]

/-- The names of the known targets. -/
def knownNames : List String := known.map name

/-- A name without regard to case. The names of the known targets are ASCII, and no other letter
    becomes one of their letters in lower case. -/
def foldName (name : String) : String :=
  String.ofList (name.toList.map Char.toLower)

/-- The target of a name, without regard to case. -/
def find? (name : String) : Option Target :=
  known.find? fun target => target.name == foldName name

/-- The target of a name, or the failure that lists the known ones. -/
def ofName (name : String) : Except Failure Target :=
  match find? name with
  | some target => .ok target
  | none => .error (.unknownTarget name knownNames)

/-- The target of the platform that the compiler runs on. -/
def host (platform : String) : Target :=
  if platform = "darwin" then darwin else linux

end Target

end MicroC
