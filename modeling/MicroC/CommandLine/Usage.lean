import MicroC.CommandLine.Arguments
import MicroC.CommandLine.Report
import MicroC.Target

/-! # Usage

The texts that explain the command, and the wording of everything that is wrong with its arguments.
-/

namespace MicroC.CommandLine

/-- The first line of the help and of most complaints. -/
def usageLine : String := "Usage: subcc [OPTIONS] INPUT_FILE\n"

/-- The version of the command. -/
def versionText : String := "subcc, version 0.1.0\n"

/-- The lines of the help after the first. -/
def helpLines : List String :=
  ["",
   "  Compile preprocessed C to x86-64 assembly.",
   "",
   "  INPUT_FILE is the preprocessed C source to compile.",
   "",
   "  Examples:",
   "      subcc prog.i -o prog.s            # Compile",
   "      subcc prog.i -o prog.s --lex      # Tokenize only",
   "      subcc prog.i -o prog.s --parse    # Parse only",
   "      subcc -t darwin prog.i -o prog.s  # Mach-O symbol names",
   "",
   "  Supported C subset:",
   "      int <name>(void) \x7b return <decimal constant>; \x7d",
   "",
   "Options:",
   "  -o, --output FILE            Output assembly file  [required]",
   "  --lex                        Stop after lexing; write no output",
   "  --parse                      Stop after parsing; write no output",
   "  --codegen                    Stop after lowering to the machine AST; write no",
   "                               output",
   "  -t, --target [darwin|linux]  Target platform (default: host, or $SUBC_TARGET)",
   "  --debug                      Dump tokens and trees to stderr",
   "  --version                    Show the version and exit.",
   "  --help                       Show this message and exit."]

/-- The help. -/
def helpText : String :=
  usageLine ++ String.join (helpLines.map (· ++ "\n"))

/-- The parameters of the command that are paths. -/
inductive PathParameter where
  | input
  | output
  deriving Repr, DecidableEq

/-- What can be wrong with a path. -/
inductive PathFault where
  | notFound
  | isDirectory
  | unreadable
  deriving Repr, DecidableEq

/-- What is wrong with the arguments of a run. -/
inductive UsageFault where
  | arguments (fault : ArgumentFault)
  | inputMissing
  | outputMissing
  | badPath (parameter : PathParameter) (fault : PathFault) (path : String)
  | unknownTarget (name : String)
  /-- There are more arguments than one input. -/
  | extraArguments (arguments : List String)
  deriving Repr, DecidableEq

/-- The name of a parameter in complaints. -/
def PathParameter.name : PathParameter → String
  | .input => "'INPUT_FILE'"
  | .output => "'-o' / '--output'"

/-- What is said of a file at a path that is at fault. -/
def PathFault.wording : PathFault → String
  | .notFound => "does not exist."
  | .isDirectory => "is a directory."
  | .unreadable => "is not readable."

namespace UsageFault

/-- The wording of a fault. -/
def message : UsageFault → String
  | .arguments (.needsValue name) => s!"Option '{name}' requires an argument."
  | .arguments (.takesNoValue name) => s!"Option '{name}' does not take a value."
  | .arguments (.unknown name) => s!"No such option: {name}"
  | .inputMissing => "Missing argument " ++ PathParameter.input.name ++ "."
  | .outputMissing => "Missing option " ++ PathParameter.output.name ++ "."
  | .badPath parameter fault path =>
      "Invalid value for " ++ parameter.name ++ ": File " ++ Text.quoted path ++ " " ++ fault.wording
  | .unknownTarget name =>
      "Invalid value for '-t' / '--target': " ++ Text.quoted name ++ " is not one of " ++
        ", ".intercalate (Target.knownNames.map Text.quoted) ++ "."
  | .extraArguments [argument] => s!"Got unexpected extra argument ({argument})"
  | .extraArguments extra =>
      "Got unexpected extra arguments (" ++ " ".intercalate extra ++ ")"

/-- Whether a complaint starts with the usage. -/
def showsUsage : UsageFault → Bool
  | .arguments (.needsValue _) | .arguments (.takesNoValue _) => false
  | _ => true

/-- What is told about faulty arguments. -/
def complaint (fault : UsageFault) : String :=
  (if fault.showsUsage then usageLine ++ "Try 'subcc --help' for help.\n\n" else "") ++
    told ("Error: " ++ fault.message)

end UsageFault

end MicroC.CommandLine
