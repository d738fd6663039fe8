import MicroC.Assembly
import MicroC.Log
import MicroC.Machine.Lower
import MicroC.Source.Parse
import MicroC.Token.Scan
import MicroC.Tree.Outline

/-! # Compilation

From a source text to assembly in four stages: tokens, source program, machine program, assembly
text. Each stage is complete before the next starts, and the first failure ends the compilation. A
compilation can stop after a stage.
-/

namespace MicroC

/-- The stages of a compilation. -/
inductive Stage where
  | lex
  | parse
  | codegen
  | emit
  deriving Repr, DecidableEq

/-- The earliest of the stages that are asked for, the last one if none is. -/
def Stage.earliest (lex parse codegen : Bool) : Stage :=
  if lex then .lex else if parse then .parse else if codegen then .codegen else .emit

/-- What a compilation is asked to do. -/
structure Options where
  /-- The name of the target; the host's target if there is none. -/
  target : Option String := none
  /-- The last stage to run. Without one, all stages run and the compilation never counts as
      complete. -/
  stopAfter : Option Stage := some .emit
  debug : Bool := false
  deriving Repr, DecidableEq

namespace Options

/-- Whether a setting of the environment switches something on. The words are ASCII, and no other
    letter becomes one of their letters in lower case. -/
def isOn (setting : String) : Bool :=
  String.ofList (setting.toList.map Char.toLower) ∈ ["1", "true", "yes"]

/-- The options that the environment sets; an empty target counts as none. -/
def ofEnvironment (setting? : String → Option String) : Options where
  target := Problem.stated? (setting? "SUBC_TARGET")
  debug := isOn ((setting? "SUBC_DEBUG").getD "")

/-- The target that the options select on a platform. -/
def resolveTarget (options : Options) (platform : String) : Except Failure Target :=
  match options.target with
  | none => .ok (Target.host platform)
  | some name => Target.ofName name

end Options

/-- What a compilation has made. -/
structure Compilation where
  file : String
  stage : Option Stage := none
  stopAfter : Option Stage := some .emit
  tokens : List Token := []
  program : Option Source.Program := none
  machine : Option Machine.Program := none
  /-- The assembly text, empty until it is written. -/
  assembly : String := ""
  target : Target
  deriving Repr

/-- Whether the stage that was asked for is the last one that is complete. -/
def Compilation.success (compilation : Compilation) : Bool :=
  compilation.stage.isSome && compilation.stage == compilation.stopAfter

/-- Cut a text into tokens. -/
def Buffer.lex (buffer : Buffer) : Traced (List Token) := do
  let tokens ← Traced.ofExcept (buffer.tokens.mapError Failure.diagnosed)
  Traced.note .lexer s!"Lexed {buffer.file}: {tokens.length} tokens"
  return tokens

/-- A program that was read from a file, if it was. -/
def Source.Program.logged (file : String) (outcome : Except Failure Source.Program) :
    Traced Source.Program := do
  let program ← Traced.ofExcept outcome
  let name := program.function.name.name.getD "None"
  Traced.note .parser s!"Parsed {file}: function '{name}'"
  return program

/-- Read any tokens as a program. The file is for the log and the lines are for diagnostics. -/
def Source.Program.ofTokens (tokens : List Token) (file : String) (lines : List String) :
    Traced Source.Program :=
  logged file (Source.parse tokens lines)

/-- Read the tokens of a text as a program. Their lines and columns are no greater than the text is
    long, so they can be written, and what there is to say is said. -/
def Source.Program.ofLexed (tokens : List Token) (file : String) (lines : List String) :
    Traced Source.Program :=
  logged file (Source.derive tokens lines)

/-- Lower a tree to machine code. -/
def Machine.Program.ofTree (tree : Tree) : Traced Machine.Program := do
  let program ← Traced.ofExcept tree.lower
  let name ← Traced.ofExcept program.function.name.sentence
  let count := program.function.instructions.length
  Traced.note .codegen s!"Lowered function '{name}': {count} instructions"
  return program

/-- Write a titled text to the log. -/
def dump (title text : String) : Traced Unit :=
  Traced.note .compiler s!"--- {title} ---\n{text}"

/-- Write the outline of a tree to the log. -/
def dumpOutline (title : String) (style : Outline.Style) (tree : Tree) : Traced Unit := do
  dump title (← Traced.ofExcept (Outline.outline style tree))

/-- Compile a source text. -/
def compile (options : Options) (platform file source : String) : Traced Compilation := do
  let target ← Traced.ofExcept (options.resolveTarget platform)
  let started : Compilation := { file, stopAfter := options.stopAfter, target }
  let tokens ← (Buffer.ofString file source).lex
  let lexed := { started with tokens, stage := some .lex }
  if options.debug then dump "tokens" ("\n".intercalate (tokens.map Token.inspect))
  if options.stopAfter = some .lex then return lexed
  let program ← Source.Program.ofLexed tokens file (Text.splitLines source)
  let parsed := { lexed with program := some program, stage := some .parse }
  if options.debug then dumpOutline "AST" .source program.toTree
  if options.stopAfter = some .parse then return parsed
  let machine ← Machine.Program.ofTree program.toTree
  let lowered := { parsed with machine := some machine, stage := some .codegen }
  if options.debug then dumpOutline "machine AST" .machine machine.toTree
  if options.stopAfter = some .codegen then return lowered
  let assembly ← Traced.ofExcept (machine.emit target)
  Traced.note .compiler s!"Emitted {assembly.length} bytes of {target.triple} assembly"
  return { lowered with assembly, stage := some .emit }

/-- The assembly text of a source text, for a target by name or for the host's. -/
def assemble (target : Option String) (platform file source : String) : Except Failure String :=
  (compile { target } platform file source).outcome.1.map Compilation.assembly

end MicroC
