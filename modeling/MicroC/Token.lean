import MicroC.Location
import MicroC.Text.Quoted

/-! # Tokens

A token is a piece of the source text that the grammar treats as one symbol. Words and constants
carry their text; keywords and delimiters have a fixed spelling.
-/

namespace MicroC

/-- The classes of tokens. -/
inductive Token.Kind where
  | identifier
  | constant
  | intKeyword
  | voidKeyword
  | returnKeyword
  | leftParen
  | rightParen
  | leftBrace
  | rightBrace
  | semicolon
  deriving Repr, DecidableEq

/-- A token: its kind, its text where the kind alone does not give it, and where it starts. -/
structure Token where
  kind : Token.Kind
  text : Option String := none
  location : Option Location := none
  deriving Repr, DecidableEq

namespace Token.Kind

/-- Every kind, in the order of their numbers. -/
def all : List Kind :=
  [.identifier, .constant, .intKeyword, .voidKeyword, .returnKeyword, .leftParen, .rightParen,
   .leftBrace, .rightBrace, .semicolon]

/-- The number of a kind, counted from one. -/
def number : Kind → Nat
  | .identifier => 1
  | .constant => 2
  | .intKeyword => 3
  | .voidKeyword => 4
  | .returnKeyword => 5
  | .leftParen => 6
  | .rightParen => 7
  | .leftBrace => 8
  | .rightBrace => 9
  | .semicolon => 10

/-- The name of a kind in token dumps. -/
def label : Kind → String
  | .identifier => "IDENTIFIER"
  | .constant => "CONSTANT"
  | .intKeyword => "INT"
  | .voidKeyword => "VOID"
  | .returnKeyword => "RETURN"
  | .leftParen => "LPAREN"
  | .rightParen => "RPAREN"
  | .leftBrace => "LBRACE"
  | .rightBrace => "RBRACE"
  | .semicolon => "SEMICOLON"

/-- The keywords with their spellings, in the order in which they are tried. -/
def keywords : List (Kind × List Char) :=
  [(.intKeyword, ['i', 'n', 't']), (.voidKeyword, ['v', 'o', 'i', 'd']),
   (.returnKeyword, ['r', 'e', 't', 'u', 'r', 'n'])]

/-- The delimiter that a character is. -/
def delimiter? : Char → Option Kind
  | '(' => some .leftParen
  | ')' => some .rightParen
  | '{' => some .leftBrace
  | '}' => some .rightBrace
  | ';' => some .semicolon
  | _ => none

/-- The fixed spelling of a keyword or delimiter. -/
def spelling? : Kind → Option String
  | .identifier | .constant => none
  | .intKeyword => some "int"
  | .voidKeyword => some "void"
  | .returnKeyword => some "return"
  | .leftParen => some "("
  | .rightParen => some ")"
  | .leftBrace => some "\x7b"
  | .rightBrace => some "\x7d"
  | .semicolon => some ";"

/-- How diagnostics name a kind that they expect. -/
def describe (kind : Kind) : String :=
  match kind.spelling? with
  | some spelling => "'" ++ spelling ++ "'"
  | none => if kind = .identifier then "identifier" else "integer constant"

end Token.Kind

namespace Token

/-- The text of the token in the source: its own, or the spelling of its kind. A name or constant
    made without a text has none. -/
def lexeme? (token : Token) : Option String :=
  token.text.or token.kind.spelling?

/-- Whether two tokens agree but for their locations. -/
def same (a b : Token) : Bool :=
  a.kind == b.kind && a.text == b.text

/-- The token without its location. -/
def unlocated (token : Token) : Token :=
  { token with location := none }

/-- The form of a token in dumps. -/
def inspect (token : Token) : String :=
  let text := match token.text with
    | some text => ", " ++ Text.quoted text
    | none => ""
  let place := match token.location with
    | some place => ", " ++ place.short
    | none => ""
  "Token(" ++ token.kind.label ++ text ++ place ++ ")"

end Token

end MicroC
