import MicroC.Diagnostic
import MicroC.Numeral
import MicroC.Token

/-! # Failures

Everything that can stop the compiler: diagnostics about the source, an unknown target, faults of
the file system, and internal faults that no diagnostic describes.
-/

namespace MicroC

/-- A fault of the file system. -/
inductive FileFault where
  | sourceMissing (path : String)
  /-- A file or a directory on the way to it is not there. -/
  | notFound (path : String)
  | notDirectory (path : String)
  | isDirectory (path : String)
  /-- A path, or a name in it, is longer than paths or names may be. -/
  | nameTooLong (path : String)
  | other (message : String)
  deriving Repr, DecidableEq

/-- The wording of a fault that is described by values: nothing, the one value, or all of them as a
    sequence. -/
def faultWording : List Tree → Except Tree.WriteFault String
  | [] => .ok ""
  | [value] => value.display
  | values => (Tree.tuple values).inspect

namespace FileFault

/-- The message of a numbered fault of the operating system. -/
def numbered (number reason : String) : String :=
  "[Errno " ++ number ++ "] " ++ reason

/-- The message of a numbered fault at a path. -/
def numberedAt (number : Nat) (reason path : String) : String :=
  numbered (toString number) reason ++ ": " ++ Text.quoted path

/-- The message of a fault that is described by values: a number and a reason, then a path, and after
    an unused value a second path. An absent path is not shown. -/
def wording : List Tree → Except Tree.WriteFault String
  | number :: reason :: paths => do
      if 3 < paths.length then faultWording (number :: reason :: paths)
      else
        let fault := numbered (← number.display) (← reason.display)
        match paths with
        | [] | .nothing :: _ => return fault
        | [path, _, .nothing] | [path] | [path, _] => return fault ++ ": " ++ (← path.inspect)
        | path :: _ :: second :: _ =>
            return fault ++ ": " ++ (← path.inspect) ++ " -> " ++ (← second.inspect)
  | values => faultWording values

/-- The wording of a fault. -/
def message : FileFault → String
  | .sourceMissing path => "Source file not found: " ++ path
  | .notFound path => numberedAt 2 "No such file or directory" path
  | .notDirectory path => numberedAt 20 "Not a directory" path
  | .isDirectory path => numberedAt 21 "Is a directory" path
  | .nameTooLong path => numberedAt 36 "File name too long" path
  | .other message => message

end FileFault

/-- A fault that no diagnostic describes. -/
inductive InternalFault where
  | numeral (fault : NumeralFault)
  /-- A token whose kind has no spelling and that carries no text. -/
  | noSpelling (kind : Token.Kind)
  | textIndex
  | tokenIndex
  | notOneCharacter (length : Nat)
  /-- A tree without a length where the text of a constant is needed. -/
  | noLength (kind : String)
  /-- A tree that is no text where the text of a constant is needed. -/
  | notText
  | noField (kind field : String)
  | noSequence (kind : String)
  /-- A path with a character that no path can have. -/
  | nullInPath
  | other (message : String)
  deriving Repr, DecidableEq

/-- The wording of an internal fault. -/
def InternalFault.message : InternalFault → String
  | .numeral fault => fault.message
  | .noSpelling kind => "<TokenType." ++ kind.label ++ ": " ++ toString kind.number ++ ">"
  | .textIndex => "string index out of range"
  | .tokenIndex => "tuple index out of range"
  | .notOneCharacter length =>
      "ord() expected a character, but string of length " ++ toString length ++ " found"
  | .noLength kind => "object of type '" ++ kind ++ "' has no len()"
  | .notText => "int() can't convert non-string with explicit base"
  | .noField kind field => "'" ++ kind ++ "' object has no attribute '" ++ field ++ "'"
  | .noSequence kind => "'" ++ kind ++ "' object is not iterable"
  | .nullInPath => "embedded null byte"
  | .other message => message

/-- Whatever stops the compiler. -/
inductive Failure where
  | diagnosed (diagnostic : Diagnostic)
  | unknownTarget (name : String) (known : List String)
  | refused (message : String)
  | file (fault : FileFault)
  | internal (fault : InternalFault)
  deriving Repr

namespace Failure

/-- The failure for an integer that cannot be read or written. -/
def numeral (fault : NumeralFault) : Failure :=
  .internal (.numeral fault)

/-- The failure for a tree that cannot be written. -/
def unwritten : Tree.WriteFault → Failure
  | .numeral fault => .numeral fault
  | .noField kind field => .internal (.noField kind field)

/-- The failure for a node that an activity cannot handle. -/
def unsupported (node : Tree) (activity : String) : Failure :=
  match Diagnostic.unsupported node activity with
  | .ok diagnostic => .diagnosed diagnostic
  | .error fault => .unwritten fault

/-- The failure as it is raised. Raising a diagnostic writes its message, which fails if its location
    cannot be written. -/
def raised : Failure → Failure
  | .diagnosed diagnostic =>
      match diagnostic.location.mapM Location.render with
      | .ok _ => .diagnosed diagnostic
      | .error fault => .numeral fault
  | failure => failure

/-- The wording of a failure. -/
def message : Failure → String
  | .diagnosed diagnostic => diagnostic.message
  | .unknownTarget name known =>
      "unknown target '" ++ name ++ "' (choose from " ++ ", ".intercalate known ++ ")"
  | .refused message => message
  | .file fault => fault.message
  | .internal fault => fault.message

end Failure

/-- The text of a token, or the failure of a name or constant that has none. -/
def Token.lexeme (token : Token) : Except Failure String :=
  match token.lexeme? with
  | some text => .ok text
  | none => .error (.internal (.noSpelling token.kind))

/-- The problem of an invalid character given as a text, which has to be one character long. -/
def Problem.ofInvalid (text : String) : Except Failure Problem :=
  match text.toList with
  | [char] => .ok (.invalidCharacter char)
  | chars => .error (.internal (.notOneCharacter chars.length))

end MicroC
