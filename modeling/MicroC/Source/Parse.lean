import MicroC.Failure
import MicroC.Source.Grammar

/-! # Reading programs

Tokens are read as one program and nothing after it. If that fails, the misses at the furthest
position say what was expected there. Deriving a program from tokens finds out what there is to say;
parsing them also says it, which fails if the place to name cannot be written.
-/

namespace MicroC.Source

/-- The furthest position at which a token was missed, and what was expected there. -/
structure Furthest where
  /-- The furthest position; -1 before the first miss. -/
  position : Int := -1
  /-- What was expected there, without repetitions, in the order of the misses. -/
  expected : List String := []
  deriving Repr, DecidableEq

namespace Furthest

/-- Take a miss into account. -/
def record (furthest : Furthest) (miss : Miss) : Furthest :=
  if furthest.position < miss.position then
    { position := miss.position, expected := [miss.expected] }
  else if miss.position = furthest.position ∧ miss.expected ∉ furthest.expected then
    { furthest with expected := furthest.expected ++ [miss.expected] }
  else
    furthest

/-- Take misses into account, in order. -/
def recordAll (furthest : Furthest) (misses : List Miss) : Furthest :=
  misses.foldl record furthest

/-- The expectations in words, if there are any. -/
def wording (furthest : Furthest) : Option String :=
  Problem.stated? (some (" or ".intercalate furthest.expected))

end Furthest

/-- The source line that a token starts in. -/
def lineOf? (lines : List String) (token : Token) : Option String := do
  let place ← token.location
  if 0 < place.line then lines[(place.line - 1).toNat]? else none

/-- The diagnostic for a token, under the line that it starts in. -/
def diagnosticAt (problem : Problem) (lines : List String) (token : Token) : Diagnostic :=
  { problem, location := token.location, sourceLine := lineOf? lines token }

/-- The diagnostic for tokens that end too early: just past the last token. -/
def diagnoseEnd (expected : Option String) (tokens : List Token) (lines : List String) :
    Except Failure Diagnostic := do
  match tokens.getLast? with
  | none => return { problem := .unexpectedEnd expected }
  | some last =>
      match last.location with
      | none => return { problem := .unexpectedEnd expected }
      | some place =>
          let text ← last.lexeme
          let past := { place with column := place.column + text.length }
          return {
            problem := .unexpectedEnd expected
            location := some past
            sourceLine := lineOf? lines last }

/-- The diagnostic for the furthest miss. -/
def Furthest.diagnose (furthest : Furthest) (tokens : List Token) (lines : List String) :
    Except Failure Diagnostic := do
  if tokens.length ≤ furthest.position then
    diagnoseEnd furthest.wording tokens lines
  else
    match tokenAt? tokens furthest.position with
    | none => throw (.internal .tokenIndex)
    | some token =>
        return diagnosticAt (.unexpectedToken (← token.lexeme) furthest.wording) lines token

/-- The failure that a furthest miss amounts to. -/
def Furthest.failure (furthest : Furthest) (tokens : List Token) (lines : List String) : Failure :=
  match furthest.diagnose tokens lines with
  | .ok diagnostic => .diagnosed diagnostic
  | .error failure => failure

/-- The failure for a token after the end of the program. -/
def trailingFailure (lines : List String) (token : Token) : Failure :=
  match token.lexeme with
  | .ok text => .diagnosed (diagnosticAt (.trailingTokens text) lines token)
  | .error failure => failure

/-- The program that all of the tokens make up, or why they make up none. The source lines are for
    the diagnostics only. -/
def derive (tokens : List Token) (lines : List String) : Except Failure Program :=
  let attempt := program tokens 0
  match attempt.found with
  | none => .error ((Furthest.recordAll {} attempt.misses).failure tokens lines)
  | some (result, after) =>
      match tokenAt? tokens after with
      | some token => .error (trailingFailure lines token)
      | none => .ok result

/-- The program that all of the tokens make up, or the failure that is raised because they make up
    none. -/
def parse (tokens : List Token) (lines : List String) : Except Failure Program :=
  (derive tokens lines).mapError Failure.raised

end MicroC.Source
