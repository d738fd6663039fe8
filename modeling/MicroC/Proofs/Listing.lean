import MicroC.Assembly
import MicroC.Machine.Lower

/-! # Listings

The text of every kind of machine tree in terms of the texts of its parts, and from these the listing
of a function that returns a constant.
-/

namespace MicroC

namespace Tree

theorem emit_immediate (target : Target) (value : Tree) :
    (immediate value).emit target = (do return "$" ++ (← value.sentence)) := by
  rw [emit]
  rfl

theorem emit_register (target : Target) (name : Tree) :
    (register name).emit target = (do return "%" ++ (← name.sentence)) := by
  rw [emit]
  rfl

theorem emit_ret (target : Target) : ret.emit target = .ok (Assembly.line "ret" "") := by
  rw [emit]
  rfl

theorem emit_mov (target : Target) (source destination : Tree) :
    (mov source destination).emit target = (do
      let source ← source.emit target
      let destination ← destination.emit target
      return Assembly.line "movl" (source ++ ", " ++ destination)) := by
  rw [emit]
  rfl

theorem mapM_attach_emit (target : Target) (trees : List Tree) :
    (trees.attach.mapM fun tree => tree.1.emit target) = trees.mapM (emit target) := by
  rw [List.mapM_subtype (fun _ _ => rfl), List.unattach_attach]

theorem emit_machineFunction (target : Target) (name : Tree) (instructions : List Tree) :
    (machineFunction name (.tuple instructions)).emit target = (do
      let name ← name.sentence
      let body ← instructions.mapM (emit target)
      return Assembly.function (target.symbol name) body) := by
  rw [← mapM_attach_emit, emit]
  rfl

theorem emit_machineProgram (target : Target) (definition : Tree) :
    (machineProgram definition).emit target = definition.emit target := by
  rw [emit]
  rfl

end Tree

/-- The assembly text of a function that returns a number. -/
def listing (symbol value : String) : String :=
  "        .globl  " ++ symbol ++ "\n" ++
  symbol ++ ":" ++ "\n" ++
  "        movl    $" ++ value ++ ", %eax" ++ "\n" ++
  "        ret" ++ "\n" ++ "\n"

/-- The machine code of a function that returns a number. -/
def Machine.Program.returning (name : String) (value : Int) : Machine.Program where
  function :=
    { name := .text name
      instructions := [.mov (.immediate (.number value)) returnRegister, .ret] }

/-- A source program is lowered to code that returns the number its constant is read as. -/
theorem Source.Program.lower_eq {program : Source.Program} {constant : Source.IntegerConstant}
    {inner outer : Option Location} {name digits : String}
    (named : program.function.name.name = some name)
    (body : program.function.body = .ret (.constant constant inner) outer)
    (written : constant.text = some digits) :
    program.lower =
      ((Numeral.read (Numeral.baseOf digits) digits).mapError Failure.numeral).map
        (Machine.Program.returning name) := by
  simp only [lower, toTree, Function.toTree, Identifier.toTree, named, body, Statement.toTree,
    Expression.toTree, IntegerConstant.toTree, written, Tree.ofText?, Tree.lower, Tree.lowerFunction,
    Tree.lowerStatement, Tree.lowerExpression, Tree.constantValue, Tree.integerValue]
  cases Numeral.read (Numeral.baseOf digits) digits <;> rfl

/-! ## The text -/

theorem Assembly.line_of_operand (mnemonic : String) {operand : String} (nonempty : operand ≠ "") :
    line mnemonic operand =
      "        " ++ mnemonic ++ String.ofList (List.replicate (8 - mnemonic.length) ' ') ++
        operand := by
  have operands : operand.isEmpty = false := by simpa using nonempty
  rw [line, operands]
  rfl

theorem Assembly.function_eq_listing {symbol : String} (value : String) (nonempty : symbol ≠ "") :
    function symbol [line "movl" ("$" ++ value ++ ", " ++ "%eax"), line "ret" ""] =
      listing symbol value := by
  have operands : "$" ++ value ++ ", " ++ "%eax" ≠ "" := by simp
  have lines : ∀ one two three four,
      "\n".intercalate [one, two, three, four] =
        one ++ "\n" ++ two ++ "\n" ++ three ++ "\n" ++ four := fun _ _ _ _ => rfl
  have ret : line "ret" "" = "        ret" := by decide
  have short : 8 - ".globl".length = 2 := by decide
  have shorter : 8 - "movl".length = 4 := by decide
  unfold function listing
  rw [lines, line_of_operand ".globl" nonempty, line_of_operand "movl" operands, ret, short, shorter,
    ← String.toList_inj]
  simp

theorem Tree.sentence_number (value : Int) :
    (number value).sentence = (Numeral.write value).mapError Failure.numeral := by
  change ((Numeral.write value).mapError WriteFault.numeral).mapError Failure.unwritten = _
  cases Numeral.write value <;> rfl

theorem Machine.Program.emit_returning (target : Target) {name : String} (value : Int)
    (nonempty : name ≠ "") :
    (returning name value).emit target =
      ((Numeral.write value).mapError Failure.numeral).map (listing (target.symbol name)) := by
  have symbol : target.symbol name ≠ "" := by simp [Target.symbol, nonempty]
  have register : (Tree.text "eax").sentence = .ok "eax" := rfl
  rw [emit, toTree, Tree.emit_machineProgram]
  change (Tree.machineFunction _ (.tuple [.mov (.immediate (.number value))
    (.register (.text "eax")), .ret])).emit target = _
  rw [Tree.emit_machineFunction]
  simp only [List.mapM_cons, List.mapM_nil, Tree.emit_mov, Tree.emit_immediate, Tree.emit_register,
    Tree.emit_ret, Tree.sentence_number, register]
  cases Numeral.write value with
  | error fault => rfl
  | ok written => exact congrArg Except.ok (Assembly.function_eq_listing written symbol)

end MicroC
