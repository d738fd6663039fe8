import MicroC.Failure
import MicroC.Text.Escape

/-! # Reports

What a run of the command leaves behind for its caller: an exit status and two texts. What the command
tells the user holds no escape sequences; the log and a trace are given as they are.
-/

namespace MicroC.CommandLine

/-- The exit status and the output of a run. -/
structure Report where
  /-- The exit status: 0 on success, 1 on any failure. -/
  exit : Nat
  stdout : String := ""
  /-- The text about failures, and the log. -/
  stderr : String := ""
  deriving Repr, DecidableEq

/-- A text as the command tells it: without escape sequences, and with its line ended. -/
def told (text : String) : String :=
  Text.withoutEscapes text ++ "\n"

/-- The lines that tell a failure. In verbose mode a diagnostic comes with its context, and an
    internal fault with a trace. -/
def failureText (verbose : Bool) (trace : String) : Failure → String
  | .diagnosed diagnostic =>
      let context := if verbose then diagnostic.context else ""
      told diagnostic.message ++ if context.isEmpty then "" else told context
  | .internal fault =>
      told ("Internal error: " ++ fault.message) ++ if verbose then trace else ""
  | failure => told ("Error: " ++ failure.message)

/-- The report of a run that fails. -/
def Report.ofFailure (verbose : Bool) (trace : String) (failure : Failure) : Report where
  exit := 1
  stderr := failureText verbose trace failure

end MicroC.CommandLine
