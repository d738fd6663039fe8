/-! # Arguments

The arguments of the command, read from left to right. An argument that starts with a dash names
options: a long one, which may carry its value after an equals sign, or short ones in a row. An
option that needs a value and carries none takes the next argument, whatever it looks like. After two
dashes alone, all arguments are positional.
-/

namespace MicroC.CommandLine

/-- The options of the command. -/
inductive Switch where
  | output
  | lex
  | parse
  | codegen
  | target
  | debug
  | version
  | help
  deriving Repr, DecidableEq

namespace Switch

/-- The options by their long names. -/
def longNames : List (String × Switch) :=
  [("--output", .output), ("--lex", .lex), ("--parse", .parse), ("--codegen", .codegen),
   ("--target", .target), ("--debug", .debug), ("--version", .version), ("--help", .help)]

/-- The options by their short names. -/
def shortNames : List (Char × Switch) :=
  [('o', .output), ('t', .target)]

/-- Whether an option needs a value. -/
def takesValue : Switch → Bool
  | .output | .target => true
  | _ => false

end Switch

/-- What is wrong with arguments by themselves. -/
inductive ArgumentFault where
  /-- An option at the end that needs a value. -/
  | needsValue (name : String)
  | takesNoValue (name : String)
  | unknown (name : String)
  deriving Repr, DecidableEq

/-- An option as given, with its value. -/
structure Given where
  switch : Switch
  value : Option String := none
  deriving Repr, DecidableEq

/-- An option that waits for its value. -/
structure Waiting where
  switch : Switch
  /-- The name it was given by. -/
  name : String
  deriving Repr, DecidableEq

/-- What one argument says: options, and perhaps a last one that waits for its value. -/
structure Reading where
  given : List Given := []
  waiting : Option Waiting := none
  deriving Repr, DecidableEq

/-- Read short options in a row. An option that needs a value takes the rest of the row. -/
def readShort : List Char → Except ArgumentFault Reading
  | [] => .ok {}
  | char :: rest =>
      let name := String.ofList ['-', char]
      match Switch.shortNames.lookup char with
      | none => .error (.unknown name)
      | some switch =>
          if switch.takesValue then
            match rest with
            | [] => .ok { waiting := some { switch, name } }
            | _ => .ok { given := [{ switch, value := some (String.ofList rest) }] }
          else do
            let reading ← readShort rest
            return { reading with given := { switch } :: reading.given }

/-- The name before the first equals sign and the value after it. -/
def splitValue (argument : List Char) : String × Option String :=
  let name := String.ofList (argument.takeWhile (· != '='))
  match argument.dropWhile (· != '=') with
  | [] => (name, none)
  | _ :: value => (name, some (String.ofList value))

/-- Read an argument that names options: a long option if there is one of that name, else short
    ones. -/
def readOption (argument : List Char) : Except ArgumentFault Reading :=
  let (name, value) := splitValue argument
  match Switch.longNames.lookup name, value with
  | some switch, some value =>
      if switch.takesValue then .ok { given := [{ switch, value := some value }] }
      else .error (.takesNoValue name)
  | some switch, none =>
      if switch.takesValue then .ok { waiting := some { switch, name } }
      else .ok { given := [{ switch }] }
  | none, _ =>
      if ['-', '-'].isPrefixOf argument then .error (.unknown name)
      else readShort (argument.drop 1)

/-- Whether an argument names options: it starts with a dash and goes on. -/
def namesOptions (argument : List Char) : Bool :=
  argument.head? == some '-' && 1 < argument.length

/-- The arguments of a run, sorted out. -/
structure Arguments where
  /-- The options in the order given. -/
  given : List Given := []
  positional : List String := []
  deriving Repr, DecidableEq

namespace Arguments

/-- Read arguments while an option may wait for its value. -/
def readFrom : Option Waiting → List String → Except ArgumentFault Arguments
  | none, [] => .ok {}
  | some waiting, [] => .error (.needsValue waiting.name)
  | some waiting, value :: rest => do
      let others ← readFrom none rest
      return { others with given := { switch := waiting.switch, value := some value } :: others.given }
  | none, argument :: rest =>
      if argument = "--" then .ok { positional := rest }
      else if namesOptions argument.toList then do
        let reading ← readOption argument.toList
        let others ← readFrom reading.waiting rest
        return { others with given := reading.given ++ others.given }
      else do
        let others ← readFrom none rest
        return { others with positional := argument :: others.positional }

/-- Read the arguments of a run. -/
def read (arguments : List String) : Except ArgumentFault Arguments :=
  readFrom none arguments

/-- Whether an option is given. -/
def has (arguments : Arguments) (switch : Switch) : Bool :=
  arguments.given.any (·.switch = switch)

/-- The value of an option; of several, the last one counts. -/
def value? (arguments : Arguments) (switch : Switch) : Option String :=
  (arguments.given.reverse.find? (·.switch = switch)).bind Given.value

/-- The options given, each once, in the order in which they first appear. -/
def switches (arguments : Arguments) : List Switch :=
  (arguments.given.map Given.switch).foldl
    (fun seen switch => if switch ∈ seen then seen else seen ++ [switch]) []

end Arguments

end MicroC.CommandLine
