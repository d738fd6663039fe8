import MicroC.Machine
import MicroC.Target
import MicroC.Tree.Field

/-! # Assembly

Machine code as text for an assembler. Emission accepts any tree. It goes by the names of the kinds,
depth first, and refuses the first node whose kind has no text.
-/

namespace MicroC

namespace Assembly

/-- A directive or an instruction: indented by eight, the mnemonic padded to eight columns if an
    operand follows. -/
def line (mnemonic : String) (operand : String) : String :=
  let padding := if operand.isEmpty then [] else List.replicate (8 - mnemonic.length) ' '
  "        " ++ mnemonic ++ String.ofList padding ++ operand

/-- The text of a function: its symbol made global, its label, its instructions and a blank line. -/
def function (symbol : String) (instructions : List String) : String :=
  "\n".intercalate (line ".globl" symbol :: (symbol ++ ":") :: instructions) ++ "\n\n"

end Assembly

namespace Tree

/-- The assembly text of a tree for a target. -/
def emit (target : Target) (tree : Tree) : Except Failure String :=
  match tree.kind with
  | "AsmProgram" =>
      match _h : tree.need "function" with
      | .error failure => .error failure
      | .ok definition => definition.emit target
  | "AsmFunction" => do
      let name ← tree.needText "name"
      match _h : tree.needItems "instructions" with
      | .error failure => .error failure
      | .ok instructions =>
          let body ← instructions.attach.mapM fun ⟨instruction, _member⟩ => instruction.emit target
          return Assembly.function (target.symbol name) body
  | "Mov" =>
      match _h : tree.need "source" with
      | .error failure => .error failure
      | .ok source => do
          let source ← source.emit target
          match _h' : tree.need "destination" with
          | .error failure => .error failure
          | .ok destination =>
              let destination ← destination.emit target
              return Assembly.line "movl" (source ++ ", " ++ destination)
  | "Ret" => .ok (Assembly.line "ret" "")
  | "Immediate" => do return "$" ++ (← tree.needText "value")
  | "Register" => do return "%" ++ (← tree.needText "name")
  | _ => .error (.unsupported tree "emission")
termination_by tree.size
decreasing_by
  · exact size_lt_of_need _h
  · exact size_lt_of_needItems _h _member
  · exact size_lt_of_need _h
  · exact size_lt_of_need _h'

end Tree

/-- The assembly text of a machine program for a target. -/
def Machine.Program.emit (program : Machine.Program) (target : Target) : Except Failure String :=
  program.toTree.emit target

end MicroC
