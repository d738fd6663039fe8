import MicroC.Source
import MicroC.Source.Rule

/-! # The grammar

    program    ::= function
    function   ::= 'int' identifier '(' 'void' ')' '{' statement '}'
    statement  ::= 'return' expression ';'
    expression ::= constant

Each nonterminal is a rule that builds its part of the program.
-/

namespace MicroC.Source

/-- A name. -/
def identifier : Rule Identifier := do
  let token ← Rule.expect .identifier
  return { name := token.text, location := token.location }

/-- An integer constant. -/
def integerConstant : Rule IntegerConstant := do
  let token ← Rule.expect .constant
  return { text := token.text, location := token.location }

/-- An expression that is a constant; it starts where the constant does. -/
def constantExpression : Rule Expression := do
  let constant ← integerConstant
  return .constant constant constant.location

/-- An expression. -/
def expression : Rule Expression :=
  Rule.firstOf [constantExpression]

/-- A return statement. -/
def returnStatement : Rule Statement := do
  let keyword ← Rule.expect .returnKeyword
  let value ← expression
  Rule.expectAll [.semicolon]
  return .ret value keyword.location

/-- A statement. -/
def statement : Rule Statement :=
  Rule.firstOf [returnStatement]

/-- A function definition. -/
def function : Rule Function := do
  let keyword ← Rule.expect .intKeyword
  let name ← identifier
  Rule.expectAll [.leftParen, .voidKeyword, .rightParen, .leftBrace]
  let body ← statement
  Rule.expectAll [.rightBrace]
  return { name, body, location := keyword.location }

/-- A program; it starts where its function does. -/
def program : Rule Program := do
  let definition ← function
  return { function := definition, location := definition.location }

/-- The nonterminals of the grammar. -/
inductive Nonterminal where
  | program
  | function
  | statement
  | returnStatement
  | expression
  | constantExpression
  | identifier
  | integerConstant
  deriving Repr, DecidableEq

/-- The rule of a nonterminal, with its value as a tree. -/
def Nonterminal.rule : Nonterminal → Rule Tree
  | .program => Program.toTree <$> Source.program
  | .function => Function.toTree <$> Source.function
  | .statement => Statement.toTree <$> Source.statement
  | .returnStatement => Statement.toTree <$> Source.returnStatement
  | .expression => Expression.toTree <$> Source.expression
  | .constantExpression => Expression.toTree <$> Source.constantExpression
  | .identifier => Identifier.toTree <$> Source.identifier
  | .integerConstant => IntegerConstant.toTree <$> Source.integerConstant

end MicroC.Source
