import Mathlib.Data.List.Forall2
import MicroC.Proofs.Listing
import MicroC.Proofs.Stages

/-! # What can be dumped

A visit of a tree comes to what the lines on its way come to, in their order. Every source program
has an outline. Machine code that returns a number has one just if the number can be written.
-/

namespace MicroC.Outline

theorem comesTo_modify (f : Sheet → Sheet) : ComesTo (modify f : Writing Unit) (.ok ()) :=
  fun _ => rfl

theorem comesTo_writeLine (line : Except Failure String) :
    ComesTo (writeLine (some line)) (line.map fun _ => ()) := by
  intro sheet
  cases line <;> rfl

theorem comesTo_forM {action : Tree → Writing Unit} {trees : List Tree}
    {outcomes : List (Except Failure Unit)}
    (each : List.Forall₂ (fun tree outcome => ComesTo (action tree) outcome) trees outcomes) :
    ComesTo (trees.forM action) (outcomes.forM id) := by
  induction each with
  | nil => exact fun _ => rfl
  | cons first _ ih => exact first.bind fun _ => ih

section Visit

variable {style : Style} {tree : Tree}

/-- The line of a node comes first, then what stands below it. -/
theorem comesTo_visit {line : Except Failure String} {trees : List Tree}
    {outcomes : List (Except Failure Unit)} (shown : style.line? tree = some line)
    (below : style.below tree = .ok trees)
    (each : List.Forall₂ (fun child outcome => ComesTo (visit style child) outcome)
      trees outcomes) :
    ComesTo (visit style tree) (line >>= fun _ => outcomes.forM id) := by
  have visited : ComesTo (visit style tree) (line.map (fun _ => ()) >>= fun _ =>
      outcomes.forM id >>= fun _ => .ok ()) := by
    rw [visit_eq, shown, below]
    apply (comesTo_writeLine line).bind
    intro _
    apply ComesTo.whenOk (comesTo_modify _)
    apply (comesTo_forM each).bind
    intro _
    split
    · exact comesTo_modify _
    · exact fun _ => rfl
  cases line with
  | error failure => exact visited
  | ok line =>
      change ComesTo _ (outcomes.forM id)
      rwa [← bind_pure (outcomes.forM id)]

theorem comesTo_visit_last {line : Except Failure String} (shown : style.line? tree = some line)
    (below : style.below tree = .ok []) : ComesTo (visit style tree) (line.map fun _ => ()) := by
  have visited := comesTo_visit shown below .nil
  cases line <;> exact visited

theorem comesTo_visit_over {line : String} {child : Tree} {outcome : Except Failure Unit}
    (shown : style.line? tree = some (.ok line)) (below : style.below tree = .ok [child])
    (visited : ComesTo (visit style child) outcome) : ComesTo (visit style tree) outcome := by
  have whole := comesTo_visit shown below (.cons visited .nil)
  cases outcome <;> exact whole

end Visit

/-! ## Source programs -/

theorem comesTo_visit_expression (expression : Source.Expression) :
    ComesTo (visit .source expression.toTree) (.ok ()) := by
  obtain ⟨⟨text, place⟩, outer⟩ := expression
  cases text with
  | none => exact @comesTo_visit_last .source _ (.ok _) rfl rfl
  | some text => exact @comesTo_visit_last .source _ (.ok _) rfl rfl

theorem comesTo_visit_statement (statement : Source.Statement) :
    ComesTo (visit .source statement.toTree) (.ok ()) := by
  obtain ⟨expression, place⟩ := statement
  apply comesTo_visit_over rfl rfl
  exact comesTo_visit_expression expression

theorem comesTo_visit_function (function : Source.Function) :
    ComesTo (visit .source function.toTree) (.ok ()) := by
  obtain ⟨⟨name, start⟩, body, place⟩ := function
  cases name with
  | none =>
      apply comesTo_visit_over rfl rfl
      exact comesTo_visit_statement body
  | some name =>
      apply comesTo_visit_over rfl rfl
      exact comesTo_visit_statement body

theorem comesTo_visit_program (program : Source.Program) :
    ComesTo (visit .source program.toTree) (.ok ()) := by
  apply comesTo_visit_over rfl rfl
  exact comesTo_visit_function program.function

/-! ## Machine programs -/

theorem operand_immediate (value : Tree) :
    operand (.immediate value) = value.sentence.map fun text => "Imm(" ++ text ++ ")" := by
  rw [operand]
  cases value.sentence <;> rfl

theorem comesTo_visit_mov (value : Tree) :
    ComesTo (visit .machine (.mov (.immediate value) (.register (.text "eax"))))
      (value.sentence.map fun _ => ()) := by
  have visited := @comesTo_visit_last .machine
    (.mov (.immediate value) (.register (.text "eax"))) (do
      let source ← operand (.immediate value)
      return "Mov " ++ source ++ " -> " ++ "Reg(eax)") rfl rfl
  rw [operand_immediate] at visited
  cases written : value.sentence <;> rw [written] at visited <;> exact visited

theorem comesTo_visit_returning (name : String) (value : Int) :
    ComesTo (visit .machine (Machine.Program.returning name value).toTree)
      ((Tree.number value).sentence.map fun _ => ()) := by
  have ret : ComesTo (visit .machine .ret) (.ok ()) :=
    @comesTo_visit_last .machine .ret (.ok _) rfl rfl
  have mov := comesTo_visit_mov (.number value)
  apply comesTo_visit_over rfl rfl
  have visited := @comesTo_visit .machine (Machine.Program.returning name value).function.toTree
    (.ok _) _ _ rfl rfl (.cons mov (.cons ret .nil))
  generalize (Tree.number value).sentence = text at visited ⊢
  cases text <;> exact visited

/-! ## Outlines -/

theorem map_outline {style : Style} {tree : Tree} {outcome : Except Failure Unit}
    (visited : ComesTo (visit style tree) outcome) :
    (outline style tree).map (fun _ => ()) = outcome := by
  let reading : Writing String := do return "\n".intercalate (← get).lines
  have step := visited {}
  have run : outline style tree =
      ((ExceptT.bindCont (fun _ => reading) ((visit style tree).run.run {}).1 : StateM Sheet _).run
        ((visit style tree).run.run {}).2).1 := rfl
  rw [run, step]
  cases outcome <;> rfl

theorem map_outline_program (program : Source.Program) :
    (outline .source program.toTree).map (fun _ => ()) = .ok () :=
  map_outline (comesTo_visit_program program)

theorem map_outline_returning (name : String) (value : Int) :
    (outline .machine (Machine.Program.returning name value).toTree).map (fun _ => ()) =
      ((Numeral.write value).mapError Failure.numeral).map fun _ => () := by
  rw [map_outline (comesTo_visit_returning name value), Tree.sentence_number]

end MicroC.Outline

namespace MicroC

theorem dumped_program (options : Options) (program : Source.Program) :
    dumped options .source program.toTree = .ok () := by
  unfold dumped
  split
  · exact Outline.map_outline_program program
  · rfl

end MicroC
