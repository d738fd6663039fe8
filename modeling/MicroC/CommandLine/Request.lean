import MicroC.CommandLine.Usage
import MicroC.Compilation
import MicroC.FileAccess

/-! # Requests

What the arguments of a run ask for. Whatever reads the arguments answers with a request, or with why
there is none. The standard reader knows the options of the command and checks the paths that are
given.
-/

namespace MicroC.CommandLine

/-- The values that a run is given. -/
structure Parameters where
  input : String
  output : String
  lex : Bool := false
  parse : Bool := false
  codegen : Bool := false
  target : Option String := none
  debug : Bool := false
  deriving Repr, DecidableEq

/-- What arguments ask for: to show a text, or to compile. -/
inductive Request where
  | display (text : String)
  | compile (parameters : Parameters)
  deriving Repr, DecidableEq

/-- Why arguments ask for nothing. -/
inductive Refusal where
  /-- They are at fault, and this is told. -/
  | usage (complaint : String)
  /-- They cannot be checked. -/
  | failed (failure : Failure)
  deriving Repr

/-- Something that reads the arguments of a run. -/
abbrev Reader (m : Type → Type) := List String → m (Except Refusal Request)

/-! ## Checks -/

/-- What paths lead to, as far as the file system can say. -/
abbrev Statuses := String → Except Failure FileStatus

/-- Complain about the arguments. -/
def complain (fault : UsageFault) : Except Refusal α :=
  .error (.usage fault.complaint)

/-- Check a path, which has to lead to a file that may be read, or to nothing unless something has to
    be there. A path that no file can have cannot be checked. -/
def checkPath (status : Statuses) (parameter : PathParameter) (required : Bool) (path : String) :
    Except Refusal Unit :=
  match status path with
  | .ok .file => .ok ()
  | .ok .directory => complain (.badPath parameter .isDirectory path)
  | .ok .unreadable => complain (.badPath parameter .unreadable path)
  | .error (.file _) => if required then complain (.badPath parameter .notFound path) else .ok ()
  | .error failure => .error (.failed failure)

/-- Check the value of an option, if there is anything to check. -/
def checkSwitch (status : Statuses) (arguments : Arguments) (switch : Switch) :
    Except Refusal Unit :=
  match switch, arguments.value? switch with
  | .output, some path => checkPath status .output false path
  | .target, some name =>
      if (Target.find? name).isNone then complain (.unknownTarget name) else .ok ()
  | _, _ => .ok ()

/-- Check the input. -/
def checkInput (status : Statuses) : List String → Except Refusal String
  | [] => complain .inputMissing
  | path :: _ => do
      checkPath status .input true path
      return path

/-- The text that an option asks to show. -/
def shownBy? : Switch → Option String
  | .version => some versionText
  | .help => some helpText
  | _ => none

namespace Arguments

/-- The values that the options have, for an input and an output. -/
def parameters (arguments : Arguments) (input output : String) : Parameters where
  input := input
  output := output
  lex := arguments.has .lex
  parse := arguments.has .parse
  codegen := arguments.has .codegen
  target := ((arguments.value? .target).bind Target.find?).map Target.name
  debug := arguments.has .debug

/-- What the arguments ask for. The first option that shows a text acts alone. Otherwise the options
    given are checked in their order, then the input, then what is missing or too much. -/
def request (arguments : Arguments) (status : Statuses) : Except Refusal Request := do
  match arguments.switches.findSome? shownBy? with
  | some text => return .display text
  | none =>
      arguments.switches.forM (checkSwitch status arguments)
      let input ← checkInput status arguments.positional
      match arguments.value? .output with
      | none => complain .outputMissing
      | some output =>
          match arguments.positional.drop 1 with
          | [] => return .compile (arguments.parameters input output)
          | extra => complain (.extraArguments extra)

/-- The paths whose status decides what arguments ask for. -/
def paths (arguments : Arguments) : List String :=
  arguments.positional.take 1 ++ (arguments.value? .output).toList

end Arguments

/-- The status of paths that have been looked up. -/
def statusIn (known : List (String × Except Failure FileStatus)) : Statuses := fun path =>
  (known.lookup path).getD (.error (.file (.notFound path)))

/-- The standard reader of arguments. -/
def standardReader {m : Type → Type} [Monad m] (files : FileAccess m) : Reader m := fun arguments => do
  match Arguments.read arguments with
  | .error fault => return complain (.arguments fault)
  | .ok arguments =>
      let known ← arguments.paths.mapM fun path => do return (path, ← files.status path)
      return arguments.request (statusIn known)

end MicroC.CommandLine
