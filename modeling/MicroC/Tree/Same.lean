import MicroC.Tree

/-! # Sameness of trees

Two trees are the same if they are of the same kind and have the same parts, except that where a
source node starts does not matter. A truth value is the same as the number one or zero. Nodes that
the compiler does not know are compared by all of their fields, locations included; a value that has
no fields is the same only as itself.
-/

namespace MicroC.Tree

/-- The number that a truth value counts as. -/
def numberOf (value : Bool) : Int :=
  if value then 1 else 0

mutual

/-- Whether two trees are the same. -/
def same : Tree → Tree → Bool
  | .nothing, .nothing => true
  | .truth first, .truth second => first == second
  | .truth first, .number second => numberOf first == second
  | .number first, .truth second => first == numberOf second
  | .number first, .number second => first == second
  | .text first, .text second => first == second
  | .tuple first, .tuple second => sameAll first second
  | .place firstFile firstLine firstColumn, .place secondFile secondLine secondColumn =>
      same firstFile secondFile && same firstLine secondLine && same firstColumn secondColumn
  | .plain first firstNumber, .plain second secondNumber =>
      first == second && firstNumber == secondNumber
  | .identifier first _, .identifier second _ => same first second
  | .integerConstant first _, .integerConstant second _ => same first second
  | .constantExpression first _, .constantExpression second _ => same first second
  | .returnStatement first _, .returnStatement second _ => same first second
  | .function firstName firstBody firstType firstParameters _,
    .function secondName secondBody secondType secondParameters _ =>
      same firstName secondName && same firstBody secondBody && same firstType secondType &&
        same firstParameters secondParameters
  | .program first _, .program second _ => same first second
  | .immediate first, .immediate second => same first second
  | .register first, .register second => same first second
  | .mov firstSource firstDestination, .mov secondSource secondDestination =>
      same firstSource secondSource && same firstDestination secondDestination
  | .ret, .ret => true
  | .machineFunction firstName firstBody, .machineFunction secondName secondBody =>
      same firstName secondName && same firstBody secondBody
  | .machineProgram first, .machineProgram second => same first second
  | .foreign first firstFields firstNumber, .foreign second secondFields secondNumber =>
      first == second && firstNumber == secondNumber && sameFields firstFields secondFields
  | _, _ => false

/-- Whether two sequences of trees are the same. -/
def sameAll : List Tree → List Tree → Bool
  | [], [] => true
  | first :: firsts, second :: seconds => same first second && sameAll firsts seconds
  | _, _ => false

/-- Whether two sequences of fields have the same names and hold the same. -/
def sameFields : List (String × Tree) → List (String × Tree) → Bool
  | [], [] => true
  | (first, value) :: firsts, (second, other) :: seconds =>
      first == second && same value other && sameFields firsts seconds
  | _, _ => false

end

end MicroC.Tree
