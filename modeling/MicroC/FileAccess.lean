import MicroC.Compilation
import MicroC.FileTree
import MicroC.Text.Lines
import MicroC.Text.Octets

/-! # File access

What the compiler needs of a file system, whatever it is: a file tree in memory or the files of the
machine. Source files are read and compiled through it, and assembly is written only after every
stage has succeeded.
-/

namespace MicroC

/-- Whether a failure means that nothing is where a path leads. -/
def Failure.meansMissing : Failure → Bool
  | .file (.notFound _) | .file (.notDirectory _) | .internal .nullInPath => true
  | _ => false

/-- Access to files. -/
structure FileAccess (m : Type → Type) where
  status : String → m (Except Failure FileStatus)
  read : String → m (Except Failure (List UInt8))
  /-- Write a file; a fault leaves all files as they are. -/
  write : String → List UInt8 → m (Except Failure Unit)

/-- Access to the files of a tree. -/
def FileTree.access : FileAccess (StateM FileTree) where
  status path := do return (← get).status path
  read path := do return (← get).read path
  write path octets := do
    match (← get).write path octets with
    | .ok tree =>
        set tree
        return .ok ()
    | .error failure => return .error failure

namespace FileAccess

variable {m : Type → Type} [Monad m]

/-- Compile a source file, which goes by its path as given. -/
def compile (files : FileAccess m) (options : Options) (platform path : String) :
    m (Except Failure Compilation) := do
  let place := Path.normalize path
  match ← files.status place with
  | .error failure =>
      return .error (if failure.meansMissing then .file (.sourceMissing path) else failure)
  | .ok _ =>
      match ← files.read place with
      | .error failure => return .error failure
      | .ok octets => return (MicroC.compile options platform path (Text.ofOctets octets)).outcome.1

/-- The assembly text of a source file, also written to another file if that has a name. The lines of
    that file end with the mark. -/
def assemble (files : FileAccess m) (target : Option String) (platform path : String)
    (output : Option String) (mark : String := "\n") : m (Except Failure String) := do
  match ← files.compile { target } platform path with
  | .error failure => return .error failure
  | .ok compilation =>
      let text := compilation.assembly
      match Problem.stated? output with
      | none => return .ok text
      | some output =>
          match ← files.write (Path.normalize output)
              (Text.toOctets (Text.withLineEnds mark text)) with
          | .error failure => return .error failure
          | .ok () => return .ok text

end FileAccess

end MicroC
