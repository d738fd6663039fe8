import MicroC.Tree

/-! # Source programs

The program as it is written: one function that returns one constant. Every part remembers where it
starts. Names and constants keep their text as written; a text is absent only if the token it was
read from carries none.
-/

namespace MicroC.Source

/-- A name. -/
structure Identifier where
  name : Option String
  location : Option Location := none
  deriving Repr, DecidableEq

/-- An integer constant. -/
structure IntegerConstant where
  text : Option String
  location : Option Location := none
  deriving Repr, DecidableEq

/-- An expression. -/
inductive Expression where
  | constant (value : IntegerConstant) (location : Option Location)
  deriving Repr, DecidableEq

/-- A statement. -/
inductive Statement where
  | ret (expression : Expression) (location : Option Location)
  deriving Repr, DecidableEq

/-- A function without parameters that returns an integer. -/
structure Function where
  name : Identifier
  body : Statement
  location : Option Location := none
  deriving Repr, DecidableEq

/-- A program: exactly one function. -/
structure Program where
  function : Function
  location : Option Location := none
  deriving Repr, DecidableEq

/-- The tree of a name. -/
def Identifier.toTree (identifier : Identifier) : Tree :=
  .identifier (.ofText? identifier.name) (.ofLocation? identifier.location)

/-- The tree of a constant. -/
def IntegerConstant.toTree (constant : IntegerConstant) : Tree :=
  .integerConstant (.ofText? constant.text) (.ofLocation? constant.location)

/-- The tree of an expression. -/
def Expression.toTree : Expression → Tree
  | .constant value location => .constantExpression value.toTree (.ofLocation? location)

/-- The tree of a statement. -/
def Statement.toTree : Statement → Tree
  | .ret expression location => .returnStatement expression.toTree (.ofLocation? location)

/-- The tree of a function; its return type and its parameters are always the same. -/
def Function.toTree (function : Function) : Tree :=
  .function function.name.toTree function.body.toTree (.text "int") (.text "void")
    (.ofLocation? function.location)

/-- The tree of a program. -/
def Program.toTree (program : Program) : Tree :=
  .program program.function.toTree (.ofLocation? program.location)

end MicroC.Source
