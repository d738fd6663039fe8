import MicroC.Tree

/-! # Machine programs

A program of machine code is one named function, which is a sequence of instructions on operands.
Names and integers are kept as the values that they have in the source tree, which are texts and
numbers in every program that was read from a text.
-/

namespace MicroC.Machine

/-- What an instruction reads or writes. -/
inductive Operand where
  | immediate (value : Tree)
  /-- A register, without its mark. -/
  | register (name : Tree)
  deriving Repr

/-- An instruction. -/
inductive Instruction where
  /-- Copy 32 bits from the source to the destination. -/
  | mov (source destination : Operand)
  | ret
  deriving Repr

/-- A function of machine code. -/
structure Function where
  /-- Its name, without the mark that a target puts before symbols. -/
  name : Tree
  instructions : List Instruction
  deriving Repr

/-- A program of machine code. -/
structure Program where
  function : Function
  deriving Repr

/-- The register in which a function returns an integer. -/
def returnRegister : Operand := .register (.text "eax")

/-- The tree of an operand. -/
def Operand.toTree : Operand → Tree
  | .immediate value => .immediate value
  | .register name => .register name

/-- The tree of an instruction. -/
def Instruction.toTree : Instruction → Tree
  | .mov source destination => .mov source.toTree destination.toTree
  | .ret => .ret

/-- The tree of a function. -/
def Function.toTree (function : Function) : Tree :=
  .machineFunction function.name (.tuple (function.instructions.map Instruction.toTree))

/-- The tree of a program. -/
def Program.toTree (program : Program) : Tree :=
  .machineProgram program.function.toTree

end MicroC.Machine
