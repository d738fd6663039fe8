import MicroC.Tree.Field

/-! # Outlines

An outline shows a tree in indented lines. There are two styles, one for source trees and one for
machine trees. Each has lines for the kinds that it knows, by name; a node of another kind has no
line, and the nodes below it are shown at the same depth.

Lines are written on a sheet, which keeps the current depth. A sheet can be used again: printing
starts by clearing it, so that an outline that failed halfway leaves no trace in the next.

Main statement: `visit_eq`, which says what a visit does without the termination argument.
-/

namespace MicroC.Outline

/-- What an outline is written on. -/
structure Sheet where
  lines : List String := []
  depth : Nat := 0
  deriving Repr, DecidableEq

namespace Sheet

/-- The blanks before a line: two for each level. -/
def indentation (depth : Nat) : String :=
  String.ofList (List.replicate (2 * depth) ' ')

/-- Write one line at the current depth. -/
def write (sheet : Sheet) (line : String) : Sheet :=
  { sheet with lines := sheet.lines ++ [indentation sheet.depth ++ line] }

/-- Go one level down. -/
def deeper (sheet : Sheet) : Sheet :=
  { sheet with depth := sheet.depth + 1 }

/-- Go one level up. -/
def shallower (sheet : Sheet) : Sheet :=
  { sheet with depth := sheet.depth - 1 }

end Sheet

/-- Writing on a sheet, which may fail halfway and leaves the sheet as it is then. -/
abbrev Writing := ExceptT Failure (StateM Sheet)

/-- The trees that an outline is made for. -/
inductive Style where
  | source
  | machine
  deriving Repr, DecidableEq

/-- An operand in an outline: integers and registers show what they hold, all else its kind. -/
def operand : Tree → Except Failure String
  | .immediate value => do return "Imm(" ++ (← value.sentence) ++ ")"
  | .register name => do return "Reg(" ++ (← name.sentence) ++ ")"
  | tree => .ok ("<" ++ tree.kind ++ ">")

/-- The line of a function: its type, its name and its parameters. -/
def functionLine (tree : Tree) : Except Failure String := do
  let type ← tree.needText "return_type"
  let name ← (← tree.need "name").needText "name"
  let parameters ← tree.needText "parameters"
  return "Function " ++ type ++ " " ++ name ++ "(" ++ parameters ++ ")"

/-- The line of a constant: its text as written. -/
def constantLine (tree : Tree) : Except Failure String := do
  return "Constant " ++ (← (← tree.need "constant").needText "text")

/-- The line of a move: from where to where. -/
def moveLine (tree : Tree) : Except Failure String := do
  let source ← operand (← tree.need "source")
  let destination ← operand (← tree.need "destination")
  return "Mov " ++ source ++ " -> " ++ destination

/-- The line that a style has for a node. -/
def Style.line? (style : Style) (tree : Tree) : Option (Except Failure String) :=
  match style, tree.kind with
  | .source, "ProgramNode" => some (.ok "Program")
  | .source, "FunctionNode" => some (functionLine tree)
  | .source, "ReturnStatement" => some (.ok "Return")
  | .source, "ConstantExpression" => some (constantLine tree)
  | .machine, "AsmProgram" => some (.ok "AsmProgram")
  | .machine, "AsmFunction" => some (do return "AsmFunction " ++ (← tree.needText "name"))
  | .machine, "Mov" => some (moveLine tree)
  | .machine, "Ret" => some (.ok "Ret")
  | _, _ => none

/-- Whether what stands below a node is shown one level deeper. -/
def Style.indents (style : Style) (tree : Tree) : Bool :=
  match style with
  | .source => tree.kind ∈ ["ProgramNode", "FunctionNode", "ReturnStatement"]
  | .machine => tree.kind ∈ ["AsmProgram", "AsmFunction"]

/-- The trees that are shown below a node. -/
def Style.below (style : Style) (tree : Tree) : Except Failure (List Tree) :=
  match style, tree.kind with
  | .source, "ProgramNode" => do return [← tree.need "function"]
  | .source, "FunctionNode" => do return [← tree.need "body"]
  | .source, "ReturnStatement" => do return [← tree.need "expression"]
  | .source, "ConstantExpression" => .ok []
  | .machine, "AsmProgram" => do return [← tree.need "function"]
  | .machine, "AsmFunction" => tree.needItems "instructions"
  | .machine, "Mov" => .ok []
  | .machine, "Ret" => .ok []
  | _, _ => .ok tree.children

theorem size_lt_of_single {tree child : Tree} {name : String} {trees : List Tree}
    (h : (do return [← tree.need name] : Except Failure (List Tree)) = .ok trees)
    (member : child ∈ trees) : child.size < tree.size := by
  cases found : tree.need name with
  | error failure => simp [found, bind, Except.bind] at h
  | ok value =>
      simp only [found, bind, Except.bind, pure, Except.pure, Except.ok.injEq] at h
      subst h
      rw [List.mem_singleton] at member
      subst member
      exact Tree.size_lt_of_need found

theorem size_lt_of_mem_below {style : Style} {tree child : Tree} {trees : List Tree}
    (h : style.below tree = .ok trees) (member : child ∈ trees) : child.size < tree.size := by
  unfold Style.below at h
  split at h
  all_goals first
    | exact size_lt_of_single h member
    | exact Tree.size_lt_of_needItems h member
    | (cases h; simp at member)
    | (cases h; exact Tree.size_lt_of_mem_children member)

/-- Write the line of a node, if it has one. -/
def writeLine : Option (Except Failure String) → Writing Unit
  | none => pure ()
  | some (.ok line) => modify (·.write line)
  | some (.error failure) => throw failure

/-- Write a tree on the sheet: its line, then what stands below it. -/
def visit (style : Style) (tree : Tree) : Writing Unit := do
  writeLine (style.line? tree)
  if style.indents tree then modify Sheet.deeper
  match _h : style.below tree with
  | .error failure => throw failure
  | .ok trees => trees.attach.forM fun ⟨child, _member⟩ => visit style child
  if style.indents tree then modify Sheet.shallower
termination_by tree.size
decreasing_by exact size_lt_of_mem_below _h _member

theorem forM_attach (trees : List Tree) (action : Tree → Writing Unit) :
    (trees.attach.forM fun child => action child.val) = trees.forM action := by
  calc (trees.attach.forM fun child => action child.val)
      = (trees.attach.map Subtype.val).forM action := List.forM_map.symm
    _ = trees.forM action := by rw [List.attach_map_subtype_val]

/-- A visit writes the line of a node, then visits what stands below it, deeper if the node
    indents. -/
theorem visit_eq (style : Style) (tree : Tree) :
    visit style tree = (do
      writeLine (style.line? tree)
      if style.indents tree then modify Sheet.deeper
      match style.below tree with
      | .error failure => throw failure
      | .ok trees => trees.forM (visit style)
      if style.indents tree then modify Sheet.shallower) := by
  rw [visit]
  simp only [forM_attach]
  cases style.below tree <;> rfl

/-- Write a tree on a cleared sheet and read the sheet. -/
def print (style : Style) (tree : Tree) : Writing String := do
  set ({} : Sheet)
  visit style tree
  return "\n".intercalate (← get).lines

/-- Write trees one after the other on the same sheet. -/
def printAll (style : Style) (sheet : Sheet) : List Tree → List (Except Failure String)
  | [] => []
  | tree :: trees =>
      let (outcome, after) := (print style tree).run.run sheet
      outcome :: printAll style after trees

/-- The outline of a tree on a new sheet. -/
def outline (style : Style) (tree : Tree) : Except Failure String :=
  ((print style tree).run.run {}).1

end MicroC.Outline
