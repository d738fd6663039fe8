import MicroC.Proofs.Pipeline

/-! # A compilation without its log

What a compilation comes to, stage by stage and without the log. Dumps remain only as what they can
do to the outcome: a dump ends the compilation if it cannot be written.
-/

namespace MicroC

/-- The outcome of a dump, if one is asked for. -/
def dumped (options : Options) (style : Outline.Style) (tree : Tree) : Except Failure Unit :=
  if options.debug then (Outline.outline style tree).map fun _ => () else .ok ()

/-- The machine code of a source program, whose name can be told. -/
def Source.Program.named (program : Source.Program) : Except Failure Machine.Program := do
  let machine ← program.lower
  let _ ← machine.function.name.sentence
  return machine

namespace Compilation

/-- Go on from a machine program. -/
def fromMachine (lowered : Compilation) (options : Options) (machine : Machine.Program) :
    Except Failure Compilation := do
  dumped options .machine machine.toTree
  if options.stopAfter = some .codegen then return lowered
  let assembly ← machine.emit lowered.target
  return { lowered with assembly, stage := some .emit }

/-- Go on from a source program. -/
def fromProgram (parsed : Compilation) (options : Options) (program : Source.Program) :
    Except Failure Compilation := do
  dumped options .source program.toTree
  if options.stopAfter = some .parse then return parsed
  let machine ← program.named
  { parsed with machine := some machine, stage := some .codegen }.fromMachine options machine

/-- Go on from the tokens of a text. -/
def fromTokens (lexed : Compilation) (options : Options) (source : String) :
    Except Failure Compilation := do
  if options.stopAfter = some .lex then return lexed
  let program ← Source.derive lexed.tokens (Text.splitLines source)
  { lexed with program := some program, stage := some .parse }.fromProgram options program

end Compilation

/-- What compiling a text comes to. -/
def staged (options : Options) (platform file source : String) : Except Failure Compilation := do
  let target ← options.resolveTarget platform
  let tokens ← (Buffer.ofString file source).tokens.mapError Failure.diagnosed
  let lexed : Compilation :=
    { file, stopAfter := options.stopAfter, target, tokens, stage := some .lex }
  lexed.fromTokens options source

open Traced

theorem comesTo_dump (title text : String) : ComesTo (dump title text) (.ok ()) :=
  comesTo_note _ _

theorem comesTo_dumpOutline (title : String) (style : Outline.Style) (tree : Tree) :
    ComesTo (dumpOutline title style tree) ((Outline.outline style tree).map fun _ => ()) := by
  unfold dumpOutline
  have run := (comesTo_ofExcept (Outline.outline style tree)).bind fun text =>
    comesTo_dump title text
  cases outlined : Outline.outline style tree <;> rw [outlined] at run <;> exact run

theorem comesTo_compile (options : Options) (platform file source : String) :
    ComesTo (compile options platform file source) (staged options platform file source) := by
  unfold compile staged
  refine (comesTo_ofExcept _).bind fun target => (Buffer.comesTo_lex _).bind fun tokens => ?_
  apply ComesTo.whenOk (comesTo_dump _ _)
  apply ComesTo.ite (comesTo_pure _)
  refine (Source.Program.comesTo_ofLexed _ _ _).bind fun program => ?_
  apply ComesTo.when (comesTo_dumpOutline _ _ _)
  apply ComesTo.ite (comesTo_pure _)
  refine (Machine.Program.comesTo_ofTree _).bind fun machine => ?_
  apply ComesTo.when (comesTo_dumpOutline _ _ _)
  apply ComesTo.ite (comesTo_pure _)
  refine (comesTo_ofExcept _).bind fun assembly => ?_
  exact (comesTo_note _ _).bind fun _ => comesTo_pure _

end MicroC
