import MicroC.Tree.Inspect

/-! # Diagnostics

A diagnostic says what is wrong with a source text, where, and which line shows it. Its message is
one line; its context shows the source line, a caret and a hint.
-/

namespace MicroC

/-- The part of the compiler that a diagnostic comes from. -/
inductive Phase where
  | compile
  | lex
  | parse
  /-- Making machine code and writing it. -/
  | codegen
  deriving Repr, DecidableEq

/-- The name of a phase in messages. -/
def Phase.name : Phase → String
  | .compile => "compile"
  | .lex => "lex"
  | .parse => "parse"
  | .codegen => "codegen"

/-- What is wrong. -/
inductive Problem where
  | general (phase : Phase) (message : String) (hint : Option String)
  | invalidCharacter (char : Char)
  /-- A run of characters that runs into a word character. -/
  | malformedToken (kind text following : String)
  /-- A constant with a leading zero and a digit that is not octal. -/
  | invalidOctal (text : String)
  | unexpectedToken (found : String) (expected : Option String)
  | unexpectedEnd (expected : Option String)
  | trailingTokens (found : String)
  /-- A tree that an activity of the compiler has no rule for, and the text of the location that it
      carries. -/
  | unsupportedNode (node : Tree) (place : Option String) (activity : String)
  deriving Repr

namespace Problem

/-- The phase that reports a problem. -/
def phase : Problem → Phase
  | .general phase .. => phase
  | .invalidCharacter _ | .malformedToken .. | .invalidOctal _ => .lex
  | .unexpectedToken .. | .unexpectedEnd _ | .trailingTokens _ => .parse
  | .unsupportedNode .. => .codegen

/-- The code of a character as messages show it: upper case, at least two digits. -/
def codeText (c : Char) : String :=
  "0x" ++ String.ofList ((Text.hexDigits 2 c.toNat).map Char.toUpper)

/-- An expectation that is worth naming. -/
def stated? : Option String → Option String
  | some "" => none
  | expected => expected

/-- The message without location and phase. -/
def bare : Problem → String
  | .general _ message _ => message
  | .invalidCharacter char =>
      "invalid character " ++ Text.quoted char.toString ++ " (" ++ codeText char ++ ")"
  | .malformedToken kind text following =>
      "malformed " ++ kind ++ " " ++ Text.quoted text ++ ": followed by " ++ Text.quoted following
  | .invalidOctal text => "invalid digit in octal constant " ++ Text.quoted text
  | .unexpectedToken found _ => "unexpected token " ++ Text.quoted found
  | .unexpectedEnd expected =>
      match stated? expected with
      | some expected => "unexpected end of input, expected " ++ expected
      | none => "unexpected end of input"
  | .trailingTokens found => "unexpected token " ++ Text.quoted found ++ " after end of program"
  | .unsupportedNode node _ activity => activity ++ " does not handle " ++ node.kind ++ " nodes"

/-- Advice on how to mend the problem. -/
def hint? : Problem → Option String
  | .general _ _ hint => hint
  | .malformedToken kind _ following =>
      some ("separate the " ++ kind ++ " from " ++ Text.quoted following ++
        " with whitespace or punctuation")
  | .invalidOctal _ => some "a leading zero makes a constant octal (digits 0-7)"
  | .unexpectedToken _ expected => (stated? expected).map ("expected " ++ ·)
  | .trailingTokens _ => some "only a single function definition is supported"
  | .invalidCharacter _ | .unexpectedEnd _ | .unsupportedNode .. => none

/-- The text of the location that a problem brings along. -/
def place? : Problem → Option String
  | .unsupportedNode _ place _ => place
  | _ => none

end Problem

/-- A problem together with where it shows. -/
structure Diagnostic where
  problem : Problem
  /-- Where it is, unless the problem itself says so. -/
  location : Option Location := none
  sourceLine : Option String := none
  deriving Repr

namespace Diagnostic

/-- The diagnostic for a node that an activity cannot handle; it stands where the node does. There is
    none if the node's location cannot be written. -/
def unsupported (node : Tree) (activity : String) : Except Tree.WriteFault Diagnostic := do
  let place ← node.location?.mapM Tree.display
  return { problem := .unsupportedNode node place activity }

/-- The text of the location. A diagnostic is raised only if its location can be written. -/
def place? (diagnostic : Diagnostic) : Option String :=
  diagnostic.location.map Location.text <|> diagnostic.problem.place?

/-- The one-line message: location if known, phase, and what is wrong. -/
def message (diagnostic : Diagnostic) : String :=
  let report := diagnostic.problem.phase.name ++ " error: " ++ diagnostic.problem.bare
  match diagnostic.place? with
  | some place => place ++ ": " ++ report
  | none => report

/-- The source line, indented by four, with a caret under the column if the column is positive. -/
def excerpt (line : String) (column : Int) : List String :=
  ("    " ++ line) ::
    if 0 < column then [String.ofList (List.replicate (column.toNat + 3) ' ' ++ ['^'])] else []

/-- The lines of the context: the excerpt if line and location are known, then the hint. -/
def contextLines (diagnostic : Diagnostic) : List String :=
  let shown := match diagnostic.sourceLine, diagnostic.location with
    | some line, some place => excerpt line place.column
    | _, _ => []
  shown ++ match Problem.stated? diagnostic.problem.hint? with
    | some hint => ["hint: " ++ hint]
    | none => []

/-- The context as one text; empty if there is nothing to show. -/
def context (diagnostic : Diagnostic) : String :=
  "\n".intercalate diagnostic.contextLines

end Diagnostic

end MicroC
