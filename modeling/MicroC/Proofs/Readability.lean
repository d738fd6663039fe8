import MicroC.Proofs.ConstantValue
import MicroC.Proofs.Listing
import Mathlib

/-! # Reading assembly back

Machine code whose names stay within a line is written one line per instruction, and nothing of it is
lost: two programs with the same text are the same. The line feeds tell the lines apart, the first
comma ends the source of a move, and the mark in front of an operand says what it is.
-/

namespace MicroC

namespace Machine

/-- An operand that a line can hold: an integer that can be written, or a register whose name neither
    ends the line nor the operand. -/
inductive Operand.Plain : Operand → Prop where
  | immediate {value : Int} : value.natAbs < 10 ^ 4300 → Plain (.immediate (.number value))
  | register {name : String} : '\n' ∉ name.toList → ',' ∉ name.toList →
      Plain (.register (.text name))

/-- An instruction on such operands. -/
inductive Instruction.Plain : Instruction → Prop where
  | mov {source destination : Operand} : source.Plain → destination.Plain →
      Plain (.mov source destination)
  | ret : Plain .ret

/-- A program of any number of such instructions, under a name that does not end the line. -/
structure Program.Plain (program : Program) : Prop where
  named : ∃ name, program.function.name = .text name ∧ '\n' ∉ name.toList
  body : ∀ instruction ∈ program.function.instructions, instruction.Plain

/-! ## What is written -/

/-- A number or a name as lines show it. -/
def shown : Tree → String
  | .number value => toString value
  | .text name => name
  | _ => ""

/-- An operand with its mark. -/
def Operand.shown : Operand → String
  | .immediate value => "$" ++ Machine.shown value
  | .register name => "%" ++ Machine.shown name

/-- The line of an instruction. -/
def Instruction.shown : Instruction → String
  | .mov source destination => "        movl    " ++ source.shown ++ ", " ++ destination.shown
  | .ret => "        ret"

/-- The line that makes a symbol global; nothing is padded if there is no symbol. -/
def directive (symbol : String) : String :=
  "        .globl" ++ if symbol = "" then "" else "  " ++ symbol

/-- The lines of a program: directive, label, and the instructions in order. -/
def Program.lines (program : Program) (target : Target) : List String :=
  let symbol := target.symbolPrefix ++ Machine.shown program.function.name
  directive symbol :: (symbol ++ ":") :: program.function.instructions.map Instruction.shown

theorem Program.length_lines (program : Program) (target : Target) :
    (program.lines target).length = program.function.instructions.length + 2 := by
  simp [lines]

theorem directive_eq_line (symbol : String) : directive symbol = Assembly.line ".globl" symbol := by
  by_cases empty : symbol = ""
  · subst empty
    decide
  · have short : 8 - ".globl".length = 2 := by decide
    rw [directive, if_neg empty, Assembly.line_of_operand ".globl" empty, short, ← String.toList_inj]
    simp

section Emission

variable (target : Target)

theorem Operand.Plain.emit {operand : Operand} (plain : operand.Plain) :
    operand.toTree.emit target = .ok operand.shown := by
  cases plain with
  | @immediate value small =>
      have sentence : (Tree.number value).sentence = .ok (toString value) := by
        rw [Tree.sentence_number, Numeral.write_of_lt small]
        rfl
      rw [toTree, Tree.emit_immediate, sentence]
      rfl
  | register =>
      rw [toTree, Tree.emit_register]
      rfl

theorem Instruction.Plain.emit {instruction : Instruction} (plain : instruction.Plain) :
    instruction.toTree.emit target = .ok instruction.shown := by
  cases plain with
  | @mov source destination one two =>
      have nonempty : source.shown ++ ", " ++ destination.shown ≠ "" := by simp
      have short : 8 - "movl".length = 4 := by decide
      have line : Assembly.line "movl" (source.shown ++ ", " ++ destination.shown) =
          "        movl    " ++ source.shown ++ ", " ++ destination.shown := by
        rw [Assembly.line_of_operand "movl" nonempty, short, ← String.toList_inj]
        simp
      rw [toTree, Tree.emit_mov, one.emit target, two.emit target]
      exact congrArg Except.ok line
  | ret =>
      have line : Assembly.line "ret" "" = "        ret" := by decide
      rw [toTree, Tree.emit_ret]
      exact congrArg Except.ok line

theorem mapM_eq_ok {f : α → Except ε β} {g : α → β} {items : List α}
    (each : ∀ item ∈ items, f item = .ok (g item)) : items.mapM f = .ok (items.map g) := by
  induction items with
  | nil => rfl
  | cons item items ih =>
      obtain ⟨here, later⟩ := List.forall_mem_cons.1 each
      rw [List.mapM_cons, here, ih later]
      rfl

theorem Program.Plain.emit {program : Program} (plain : program.Plain) :
    program.emit target = .ok ("\n".intercalate (program.lines target) ++ "\n\n") := by
  obtain ⟨name, named, -⟩ := plain.named
  have sentence : program.function.name.sentence = .ok (Machine.shown program.function.name) := by
    rw [named]
    rfl
  have body : (program.function.instructions.map Instruction.toTree).mapM (Tree.emit target) =
      .ok (program.function.instructions.map Instruction.shown) := by
    rw [List.mapM_map]
    exact mapM_eq_ok fun instruction member => (plain.body instruction member).emit target
  rw [Program.emit, toTree, Tree.emit_machineProgram, Function.toTree, Tree.emit_machineFunction,
    sentence, body, lines, directive_eq_line]
  rfl

end Emission

/-! ## Where lines and operands end -/

@[simp] theorem Operand.toList_shown_immediate (value : Int) :
    (immediate (.number value)).shown.toList = '$' :: value.repr.toList :=
  String.toList_append

@[simp] theorem Operand.toList_shown_register (name : String) :
    (register (.text name)).shown.toList = '%' :: name.toList :=
  String.toList_append

@[simp] theorem Instruction.toList_shown_mov (source destination : Operand) :
    (mov source destination).shown.toList =
      "        movl    ".toList ++ (source.shown.toList ++ ',' :: ' ' :: destination.shown.toList) := by
  change ("        movl    " ++ source.shown ++ ", " ++ destination.shown).toList = _
  simp

theorem mem_repr {value : Int} {c : Char} (member : c ∈ value.repr.toList) :
    c = '-' ∨ IsDecimal c := by
  have digits : ∀ natural : Nat, c ∈ natural.repr.toList → IsDecimal c := by
    intro natural inside
    rw [Nat.repr_eq_ofList_toDigits, String.toList_ofList] at inside
    exact isDigit_iff.1 (Nat.isDigit_of_mem_toDigits (by decide) (by decide) inside)
  rw [Int.repr_eq_if] at member
  split at member
  next => exact .inr (digits _ member)
  next =>
    rw [String.toList_append, List.mem_append] at member
    rcases member with minus | inside
    · exact .inl (List.mem_singleton.1 minus)
    · exact .inr (digits _ inside)

theorem Operand.Plain.not_mem_shown {operand : Operand} (plain : operand.Plain) :
    '\n' ∉ operand.shown.toList ∧ ',' ∉ operand.shown.toList := by
  cases plain with
  | @immediate value =>
      have inside : ∀ c, ¬ (c = '-' ∨ IsDecimal c) → c ∉ value.repr.toList :=
        fun c other member => other (mem_repr member)
      simp [inside '\n' (by decide), inside ',' (by decide)]
  | register feed comma => simp [feed, comma]

theorem Instruction.Plain.not_mem_shown {instruction : Instruction} (plain : instruction.Plain) :
    '\n' ∉ instruction.shown.toList := by
  cases plain with
  | mov one two => simp [one.not_mem_shown, two.not_mem_shown]
  | ret => decide

theorem Program.Plain.not_mem_lines {program : Program} (plain : program.Plain) {target : Target}
    (prefixed : '\n' ∉ target.symbolPrefix.toList) :
    ∀ line ∈ program.lines target, '\n' ∉ line.toList := by
  obtain ⟨name, named, feed⟩ := plain.named
  have symbol : '\n' ∉ (target.symbolPrefix ++ Machine.shown program.function.name).toList := by
    rw [named]
    simp [prefixed, shown, feed]
  simp only [lines, List.forall_mem_cons, List.forall_mem_map]
  refine ⟨?_, ?_, fun instruction member => (plain.body instruction member).not_mem_shown⟩
  · rw [directive]
    split
    · decide
    · simpa using symbol
  · simpa using symbol

theorem ne_empty_of_mem_lines {program : Program} {target : Target} :
    ∀ line ∈ program.lines target, line ≠ "" := by
  simp only [Program.lines, List.forall_mem_cons, List.forall_mem_map]
  refine ⟨by simp [directive], by simp, ?_⟩
  intro instruction member
  cases instruction with
  | mov source destination =>
      change "        movl    " ++ source.shown ++ ", " ++ destination.shown ≠ ""
      simp
  | ret => decide

/-- The text is cut into its lines by the line feeds; one empty line follows them. -/
theorem splitOn_lines {lines : List String} (nonempty : lines ≠ [])
    (feedless : ∀ line ∈ lines, '\n' ∉ line.toList) :
    ("\n".intercalate lines ++ "\n\n").toList.splitOn '\n' =
      lines.map String.toList ++ [[], []] := by
  have text : ("\n".intercalate lines ++ "\n\n").toList =
      ['\n'].intercalate (lines.map String.toList) ++ '\n' :: ['\n'] := by
    simp [String.toList_intercalate]
  rw [text, List.splitOn_append_cons_self,
    List.splitOn_intercalate '\n' (List.forall_mem_map.2 feedless) (by simpa using nonempty)]
  rfl

/-! ## Reading back -/

theorem Operand.Plain.shown_inj {one two : Operand} (plain : one.Plain) (other : two.Plain)
    (same : one.shown = two.shown) : one = two := by
  have chars := congrArg String.toList same
  cases plain with
  | @immediate value =>
      cases other with
      | @immediate value' =>
          simp only [toList_shown_immediate, List.cons.injEq, true_and, String.toList_inj,
            Int.repr_inj] at chars
          rw [chars]
      | register => simp at chars
  | @register name =>
      cases other with
      | immediate => simp at chars
      | @register name' =>
          simp only [toList_shown_register, List.cons.injEq, true_and, String.toList_inj] at chars
          rw [chars]

theorem Instruction.Plain.shown_inj {one two : Instruction} (plain : one.Plain) (other : two.Plain)
    (same : one.shown = two.shown) : one = two := by
  have chars := congrArg String.toList same
  have ret : Instruction.ret.shown.toList = "        ret".toList := rfl
  cases plain with
  | @mov source destination read write =>
      cases other with
      | @mov source' destination' read' write' =>
          -- No comma stands in an operand, so the one behind the source is found again.
          rw [toList_shown_mov, toList_shown_mov, List.append_cancel_left_eq,
            List.append_cons_inj_of_notMem read.not_mem_shown.2
              (by simp [write.not_mem_shown.2])] at chars
          obtain ⟨sources, -, destinations⟩ := chars
          rw [read.shown_inj read' (String.toList_inj.1 sources),
            write.shown_inj write' (String.toList_inj.1 (List.cons.inj destinations).2)]
      | ret => simp [ret] at chars
  | ret =>
      cases other with
      | mov => simp [ret] at chars
      | ret => rfl

theorem map_shown_inj {one two : List Instruction}
    (plain : ∀ instruction ∈ one, instruction.Plain)
    (other : ∀ instruction ∈ two, instruction.Plain)
    (same : one.map Instruction.shown = two.map Instruction.shown) : one = two := by
  induction one generalizing two with
  | nil => simpa [eq_comm] using same
  | cons instruction one ih =>
      cases two with
      | nil => simp at same
      | cons instruction' two =>
          simp only [List.map_cons, List.cons.injEq, List.forall_mem_cons] at same plain other
          rw [plain.1.shown_inj other.1 same.1, ih plain.2 other.2 same.2]

section Programs

variable {one two : Program} {target : Target}

theorem Program.Plain.lines_inj (plain : one.Plain) (other : two.Plain)
    (same : one.lines target = two.lines target) : one = two := by
  obtain ⟨⟨name, instructions⟩⟩ := one
  obtain ⟨⟨name', instructions'⟩⟩ := two
  obtain ⟨_, rfl, -⟩ := plain.named
  obtain ⟨_, rfl, -⟩ := other.named
  obtain ⟨-, rest⟩ := List.cons.inj same
  obtain ⟨label, bodies⟩ := List.cons.inj rest
  simp only [shown, String.append_left_inj, String.append_right_inj] at label
  obtain rfl := label
  obtain rfl := map_shown_inj plain.body other.body bodies
  rfl

theorem Program.Plain.splitOn_emit (plain : one.Plain)
    (prefixed : '\n' ∉ target.symbolPrefix.toList) :
    ∃ text, one.emit target = .ok text ∧
      text.toList.splitOn '\n' = (one.lines target).map String.toList ++ [[], []] :=
  ⟨_, plain.emit target, splitOn_lines (List.cons_ne_nil _ _) (plain.not_mem_lines prefixed)⟩

theorem Program.Plain.emit_inj (plain : one.Plain) (other : two.Plain)
    (prefixed : '\n' ∉ target.symbolPrefix.toList) (same : one.emit target = two.emit target) :
    one = two := by
  obtain ⟨text, emitted, cut⟩ := plain.splitOn_emit prefixed
  obtain ⟨text', emitted', cut'⟩ := other.splitOn_emit prefixed
  obtain rfl : text = text' := Except.ok.inj (emitted.symm.trans (same.trans emitted'))
  have lines := List.append_cancel_right (cut.symm.trans cut')
  exact plain.lines_inj other ((List.map_inj_right fun _ _ => String.toList_injective).1 lines)

/-- Two programs with the same text are the same program. The text is one line for the directive, one
    for the label and one for each instruction in order, none of them empty, and then an empty line;
    every line ends with a line feed. -/
theorem emission_uniquely_readable (prefixed : '\n' ∉ target.symbolPrefix.toList)
    (plain : one.Plain) (other : two.Plain) :
    (one.emit target = two.emit target → one = two) ∧
    ∃ text, one.emit target = .ok text ∧
      text.toList.splitOn '\n' = (one.lines target).map String.toList ++ [[], []] ∧
      (one.lines target).length = one.function.instructions.length + 2 ∧
      ∀ line ∈ one.lines target, line ≠ "" := by
  obtain ⟨text, emitted, cut⟩ := plain.splitOn_emit prefixed
  exact ⟨plain.emit_inj other prefixed, text, emitted, cut, one.length_lines target,
    ne_empty_of_mem_lines⟩

end Programs

/-- An empty name, a negative integer, and a register named like an operand. -/
theorem emission_uniquely_readable_odd_names :
    let program : Program :=
      { function :=
          { name := .text ""
            instructions :=
              [.mov (.register (.text "$1 %a")) (.immediate (.number (-7))), .ret] } }
    program.Plain ∧
    ∃ text, program.emit .linux = .ok text ∧
      text.toList.splitOn '\n' = ["        .globl", ":", "        movl    %$1 %a, $-7",
        "        ret"].map String.toList ++ [[], []] := by
  intro program
  have small : (-7 : Int).natAbs < 10 ^ 4300 := Numeral.small_of_lt (by decide)
  have plain : program.Plain :=
    { named := ⟨"", rfl, by decide⟩
      body := by
        simp only [program, List.forall_mem_cons]
        exact ⟨.mov (.register (by decide) (by decide)) (.immediate small), .ret,
          List.forall_mem_nil _⟩ }
  obtain ⟨-, text, emitted, cut, -⟩ :=
    @emission_uniquely_readable program program .linux (by decide) plain plain
  have lines : program.lines .linux = ["        .globl", ":", "        movl    %$1 %a, $-7",
      "        ret"] := by decide
  rw [lines] at cut
  exact ⟨plain, text, emitted, cut⟩

end Machine

end MicroC
