import MicroC.Token

/-! # Rules

A rule reads a part of a token sequence from a position on. It finds a value and the position after
it, or it finds nothing; either way it lists the misses, the places where it expected another token.
Misses never influence what a rule finds.

Positions are integers. A negative position counts from the end of the tokens, and reading on from
it continues at the first token.
-/

namespace MicroC.Source

/-- A place where another token was expected. -/
structure Miss where
  /-- The position of the token that did not fit. -/
  position : Int
  expected : String
  deriving Repr, DecidableEq

/-- What a rule makes of the tokens at a position. -/
structure Attempt (α : Type) where
  /-- The value found and the position after it. -/
  found : Option (α × Int)
  /-- What was expected, in the order of the attempts. -/
  misses : List Miss
  deriving Repr, DecidableEq

/-- The token at a position; a negative position counts from the end. -/
def tokenAt? (tokens : List Token) (position : Int) : Option Token :=
  if 0 ≤ position then tokens[position.toNat]?
  else if 0 ≤ tokens.length + position then tokens[(tokens.length + position).toNat]?
  else none

/-- Whether a position is not before the first token, counted from the end. -/
def isReachable (tokens : List Token) (position : Int) : Bool :=
  0 ≤ tokens.length + position

/-- A way to read a value from a token sequence. -/
def Rule (α : Type) : Type :=
  List Token → Int → Attempt α

namespace Rule

/-- Find a value without reading. -/
def found (value : α) : Rule α := fun _ position =>
  { found := some (value, position), misses := [] }

/-- Read with a rule, then go on with what its value says. -/
def andThen (rule : Rule α) (next : α → Rule β) : Rule β := fun tokens position =>
  let first := rule tokens position
  match first.found with
  | none => { found := none, misses := first.misses }
  | some (value, after) =>
      let second := next value tokens after
      { found := second.found, misses := first.misses ++ second.misses }

instance : Monad Rule where
  pure := found
  bind := andThen

/-- Read one token of a kind. -/
def expect (kind : Token.Kind) : Rule Token := fun tokens position =>
  let missed : Attempt Token := { found := none, misses := [⟨position, kind.describe⟩] }
  match tokenAt? tokens position with
  | some token => if token.kind = kind then { found := some (token, position + 1), misses := [] } else missed
  | none => missed

/-- Read tokens of the given kinds in a row. -/
def expectAll : List Token.Kind → Rule Unit
  | [] => pure ()
  | kind :: kinds => do
      let _ ← expect kind
      expectAll kinds

/-- Try rules in order, all from the same position; the first that finds a value wins. -/
def firstOf : List (Rule α) → Rule α
  | [] => fun _ _ => { found := none, misses := [] }
  | rule :: others => fun tokens position =>
      let attempt := rule tokens position
      match attempt.found with
      | some _ => attempt
      | none =>
          let other := firstOf others tokens position
          { found := other.found, misses := attempt.misses ++ other.misses }

end Rule

end MicroC.Source
