import MicroC.Failure

/-! # Logs

A traced computation may fail, and writes a log either way: the entries up to the failure remain.
-/

namespace MicroC

namespace Log

/-- Where a log entry comes from. -/
inductive Channel where
  | lexer
  | parser
  | codegen
  | compiler
  deriving Repr, DecidableEq

/-- The name of a channel. -/
def Channel.name : Channel → String
  | .lexer => "subc.lexer"
  | .parser => "subc.parser"
  | .codegen => "subc.codegen"
  | .compiler => "subc.compiler"

/-- A line of a log, or several. -/
structure Entry where
  channel : Channel
  message : String
  deriving Repr, DecidableEq

/-- An entry after the name of its channel. -/
def Entry.render (entry : Entry) : String :=
  entry.channel.name ++ ": " ++ entry.message

end Log

/-- A computation that may fail and writes a log. -/
abbrev Traced := ExceptT Failure (StateM (List Log.Entry))

namespace Traced

/-- Write an entry. -/
def note (channel : Log.Channel) (message : String) : Traced Unit :=
  modify (· ++ [{ channel, message }])

/-- A computation that writes nothing. -/
def ofExcept (outcome : Except Failure α) : Traced α :=
  ExceptT.mk (pure outcome)

/-- The outcome of a computation and the log it wrote. -/
def outcome (computation : Traced α) : Except Failure α × List Log.Entry :=
  computation.run.run []

end Traced

end MicroC
