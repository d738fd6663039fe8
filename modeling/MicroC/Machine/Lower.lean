import MicroC.Machine
import MicroC.Source
import MicroC.Tree.Field

/-! # Lowering

A source program becomes machine code: the constant that the function returns is moved into the
return register. Lowering accepts any tree. It goes down from the program to the expression and
refuses the first node that is of another kind than it should be.
-/

namespace MicroC

/-- The base that a constant is written in: eight after a leading zero, else ten. -/
def Numeral.baseOf (text : String) : Numeral.Base :=
  match text.toList with
  | '0' :: _ :: _ => .octal
  | _ => .decimal

namespace Tree

/-- The integer that a tree in the place of the text of a constant denotes. Only a text denotes one;
    of the other trees, only a sequence has a length, which is looked at first. -/
def integerValue : Tree → Except Failure Int
  | .text value => (Numeral.read (Numeral.baseOf value) value).mapError Failure.numeral
  | .tuple (_ :: _ :: _) => .error (.internal (.noField "tuple" "startswith"))
  | .tuple _ => .error (.internal .notText)
  | tree => .error (.internal (.noLength tree.kind))

/-- The value that a tree in the place of a constant has. -/
def constantValue : Tree → Except Failure Tree
  | .integerConstant digits _ => do return .number (← digits.integerValue)
  | tree => tree.need "value"

/-- The operand that holds the value of an expression. -/
def lowerExpression : Tree → Except Failure Machine.Operand
  | .constantExpression constant _ => do return .immediate (← constant.constantValue)
  | tree => .error (.unsupported tree "lowering")

/-- The instructions of a statement. -/
def lowerStatement : Tree → Except Failure (List Machine.Instruction)
  | .returnStatement expression _ => do
      return [.mov (← expression.lowerExpression) Machine.returnRegister, .ret]
  | tree => .error (.unsupported tree "lowering")

/-- The machine code of a function, under the same name. -/
def lowerFunction : Tree → Except Failure Machine.Function
  | .function name body _ _ _ => do
      let instructions ← body.lowerStatement
      return { name := ← name.need "name", instructions }
  | tree => .error (.unsupported tree "lowering")

/-- The machine code of a program. -/
def lower : Tree → Except Failure Machine.Program
  | .program definition _ => do return { function := ← definition.lowerFunction }
  | tree => .error (.unsupported tree "lowering")

end Tree

/-- The value of a constant as written. -/
def Source.IntegerConstant.value (constant : Source.IntegerConstant) : Except Failure Int :=
  (Tree.ofText? constant.text).integerValue

/-- The machine code of a source program. -/
def Source.Program.lower (program : Source.Program) : Except Failure Machine.Program :=
  program.toTree.lower

end MicroC
