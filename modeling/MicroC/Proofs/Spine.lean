import MicroC.Proofs.Lowered
import MicroC.Proofs.Rejection

/-! # The spine of a source tree

Lowering goes down a single way: from a program to its function, to the statement that is its body, to
the expression of the statement. The first node on that way that is of another kind is a stray, and
lowering reports it. What a node is called does not count, only what it is. A tree without a stray is
lowered to machine code that emission has a rule for, down to the last operand.

Main statements: `Tree.lower_of_stray` and `Tree.lower_of_spine`, what lowering comes to on either side,
and `Tree.lower_reports_stray`, which tells the outcomes apart.
-/

namespace MicroC

namespace Tree

/-! ## Strays -/

/-- The outermost node on the way down a tree that is not of the kind that belongs there. -/
inductive Stray : Tree → Tree → Prop where
  | program {tree : Tree} (other : ∀ definition place, tree ≠ .program definition place) :
      Stray tree tree
  | function {definition place : Tree}
      (other : ∀ name body type parameters start,
        definition ≠ .function name body type parameters start) :
      Stray (.program definition place) definition
  | statement {name body type parameters start place : Tree}
      (other : ∀ expression outer, body ≠ .returnStatement expression outer) :
      Stray (.program (.function name body type parameters start) place) body
  | expression {name expression outer type parameters start place : Tree}
      (other : ∀ constant inner, expression ≠ .constantExpression constant inner) :
      Stray (.program (.function name (.returnStatement expression outer) type parameters start)
        place) expression

/-- A tree in which every node on the way down is of the kind that belongs there, with what stands in
    the places of its name and of its constant. -/
inductive Spine (name constant : Tree) : Tree → Prop where
  | whole {inner outer type parameters start place : Tree} :
      Spine name constant (.program (.function name
        (.returnStatement (.constantExpression constant inner) outer) type parameters start) place)

theorem stray_or_spine (tree : Tree) :
    (∃ node, Stray tree node) ∨ ∃ name constant, Spine name constant tree := by
  -- Going down stops at the first node of another kind.
  by_cases outer : ∃ definition place, tree = .program definition place
  case neg => exact .inl ⟨tree, .program fun definition place same => outer ⟨_, _, same⟩⟩
  obtain ⟨definition, place, rfl⟩ := outer
  by_cases inner : ∃ name body type parameters start,
      definition = .function name body type parameters start
  case neg =>
    exact .inl ⟨definition, .function fun _ _ _ _ _ same => inner ⟨_, _, _, _, _, same⟩⟩
  obtain ⟨name, body, type, parameters, start, rfl⟩ := inner
  by_cases returns : ∃ expression outer, body = .returnStatement expression outer
  case neg => exact .inl ⟨body, .statement fun _ _ same => returns ⟨_, _, same⟩⟩
  obtain ⟨expression, outer, rfl⟩ := returns
  by_cases constant : ∃ constant inner, expression = .constantExpression constant inner
  case neg => exact .inl ⟨expression, .expression fun _ _ same => constant ⟨_, _, same⟩⟩
  obtain ⟨constant, inner, rfl⟩ := constant
  exact .inr ⟨name, constant, .whole⟩

theorem Spine.not_stray {tree name constant node : Tree} (spine : Spine name constant tree) :
    ¬Stray tree node := by
  cases spine
  rintro (other | other | other | other)
  · exact other _ _ rfl
  · exact other _ _ _ _ _ rfl
  · exact other _ _ rfl
  · exact other _ _ rfl

theorem forall_not_stray_iff {tree : Tree} :
    (∀ node, ¬Stray tree node) ↔ ∃ name constant, Spine name constant tree := by
  constructor
  · intro strayless
    rcases stray_or_spine tree with ⟨node, stray⟩ | spine
    · exact absurd stray (strayless node)
    · exact spine
  · rintro ⟨name, constant, spine⟩ node
    exact spine.not_stray

/-! ## What lowering comes to -/

variable {tree name constant node : Tree}

theorem lowerExpression_of_other
    (other : ∀ constant inner, tree ≠ .constantExpression constant inner) :
    tree.lowerExpression = .error (.unsupported tree "lowering") := by
  unfold lowerExpression
  split
  next => exact absurd rfl (other _ _)
  next => rfl

theorem lowerStatement_of_other
    (other : ∀ expression outer, tree ≠ .returnStatement expression outer) :
    tree.lowerStatement = .error (.unsupported tree "lowering") := by
  unfold lowerStatement
  split
  next => exact absurd rfl (other _ _)
  next => rfl

theorem lowerFunction_of_other
    (other : ∀ name body type parameters start,
      tree ≠ .function name body type parameters start) :
    tree.lowerFunction = .error (.unsupported tree "lowering") := by
  unfold lowerFunction
  split
  next => exact absurd rfl (other _ _ _ _ _)
  next => rfl

theorem lower_of_other (other : ∀ definition place, tree ≠ .program definition place) :
    tree.lower = .error (.unsupported tree "lowering") := by
  unfold lower
  split
  next => exact absurd rfl (other _ _)
  next => rfl

theorem lower_of_stray (stray : Stray tree node) :
    tree.lower = .error (.unsupported node "lowering") := by
  cases stray with
  | program other => exact lower_of_other other
  | function other =>
      rw [lower, lowerFunction_of_other other]
      rfl
  | statement other =>
      rw [lower, lowerFunction, lowerStatement_of_other other]
      rfl
  | expression other =>
      rw [lower, lowerFunction, lowerStatement, lowerExpression_of_other other]
      rfl

/-- The machine code that returns a value, both under whatever trees stand for them. -/
def returningTree (name value : Tree) : Machine.Program where
  function := { name, instructions := [.mov (.immediate value) Machine.returnRegister, .ret] }

theorem lower_of_spine (spine : Spine name constant tree) :
    tree.lower = (do
      let value ← constant.constantValue
      let name ← name.need "name"
      return returningTree name value) := by
  cases spine
  rw [lower, lowerFunction, lowerStatement, lowerExpression]
  cases constant.constantValue with
  | error failure => rfl
  | ok value => cases name.need "name" <;> rfl

theorem lower_of_texts {text digits : String} {start inner : Tree}
    (spine : Spine (.identifier (.text text) start) (.integerConstant (.text digits) inner) tree) :
    tree.lower = (Tree.text digits).integerValue.map (Machine.Program.returning text) := by
  rw [lower_of_spine spine, constantValue]
  cases (Tree.text digits).integerValue <;> rfl

/-! ## What is not reported -/

/-- The outcome is no diagnostic, so that nothing is reported as wrong with a tree. -/
def Undiagnosed {α : Type} (outcome : Except Failure α) : Prop :=
  ∀ diagnostic, outcome ≠ .error (.diagnosed diagnostic)

section

variable {α β : Type}

theorem undiagnosed_ok (value : α) : Undiagnosed (.ok value : Except Failure α) := nofun

theorem undiagnosed_internal (fault : InternalFault) :
    Undiagnosed (.error (.internal fault) : Except Failure α) := nofun

theorem Undiagnosed.bind {outcome : Except Failure α} {next : α → Except Failure β}
    (first : Undiagnosed outcome) (rest : ∀ value, Undiagnosed (next value)) :
    Undiagnosed (outcome >>= next) := by
  cases outcome with
  | error failure => exact fun diagnostic same => first diagnostic (congrArg _ (Except.error.inj same))
  | ok value => exact rest value

theorem undiagnosed_mapError {ε : Type} {cause : ε → Failure}
    (internal : ∀ fault, ∃ found, cause fault = .internal found) (outcome : Except ε α) :
    Undiagnosed (outcome.mapError cause) := by
  cases outcome with
  | error fault =>
      obtain ⟨found, same⟩ := internal fault
      change Undiagnosed (.error (cause fault))
      rw [same]
      exact undiagnosed_internal found
  | ok value => exact undiagnosed_ok value

end

theorem undiagnosed_integerValue (tree : Tree) : Undiagnosed tree.integerValue := by
  unfold integerValue
  split
  next => exact undiagnosed_mapError (fun fault => ⟨_, rfl⟩) _
  all_goals exact undiagnosed_internal _

theorem undiagnosed_need (tree : Tree) (field : String) : Undiagnosed (tree.need field) := by
  unfold need
  split
  next => exact undiagnosed_ok _
  next => exact undiagnosed_internal _

theorem undiagnosed_constantValue (tree : Tree) : Undiagnosed tree.constantValue := by
  unfold constantValue
  split
  next digits _ => exact (undiagnosed_integerValue digits).bind fun value => undiagnosed_ok _
  next => exact undiagnosed_need _ _

theorem Spine.undiagnosed (spine : Spine name constant tree) : Undiagnosed tree.lower := by
  rw [lower_of_spine spine]
  apply (undiagnosed_constantValue constant).bind
  intro value
  exact (undiagnosed_need name "name").bind fun name => undiagnosed_ok _

theorem Spine.exists_returningTree {machine : Machine.Program} (spine : Spine name constant tree)
    (lowered : tree.lower = .ok machine) : ∃ name value, machine = returningTree name value := by
  rw [lower_of_spine spine] at lowered
  obtain ⟨value, -, named⟩ := bind_eq_ok_iff.1 lowered
  obtain ⟨name, -, made⟩ := bind_eq_ok_iff.1 named
  exact ⟨name, value, (Except.ok.inj made).symm⟩

/-- Emission has a rule for everything that lowering makes: it can fail only to write a name or a
    value. -/
theorem undiagnosed_emit_returningTree (target : Target) (name value : Tree) :
    Undiagnosed ((returningTree name value).emit target) := by
  have sentence (tree : Tree) : Undiagnosed tree.sentence :=
    undiagnosed_mapError Failure.exists_unwritten_eq_internal tree.display
  have immediate : Undiagnosed ((Tree.immediate value).emit target) := by
    rw [emit_immediate]
    exact (sentence value).bind fun text => undiagnosed_ok _
  have register : Undiagnosed ((Tree.register (.text "eax")).emit target) := by
    rw [emit_register]
    exact (sentence _).bind fun text => undiagnosed_ok _
  have mov : Undiagnosed
      ((Tree.mov (.immediate value) (.register (.text "eax"))).emit target) := by
    rw [emit_mov]
    exact immediate.bind fun source => register.bind fun destination => undiagnosed_ok _
  have body : Undiagnosed ([Tree.mov (.immediate value) (.register (.text "eax")), .ret].mapM
      (emit target)) := by
    rw [List.mapM_cons, List.mapM_cons, List.mapM_nil, emit_ret]
    exact mov.bind fun line => undiagnosed_ok _
  rw [Machine.Program.emit, Machine.Program.toTree, emit_machineProgram]
  change Undiagnosed ((Tree.machineFunction name (.tuple _)).emit target)
  rw [emit_machineFunction]
  exact (sentence name).bind fun symbol => body.bind fun lines => undiagnosed_ok _

/-- A program that was read from tokens has no stray, whatever texts the tokens carry. -/
theorem exists_spine_of_program (program : Source.Program) :
    ∃ name constant, Spine name constant program.toTree := by
  obtain ⟨⟨name, ⟨⟨constant, inner⟩, outer⟩, start⟩, place⟩ := program
  exact ⟨_, _, .whole⟩

/-! ## Reports -/

/-- Lowering reports a node exactly if that is the stray of the tree and has a location that can be
    written; a stray whose location cannot be written fails for the same reason. A tree without
    a stray, whose name and constant are texts, comes to the code that returns the value of the constant,
    or to the failure of that value. What comes of lowering is never refused by emission, and what comes
    of parsing never by lowering. -/
theorem lower_reports_stray (tree : Tree) :
    (∀ diagnostic, tree.lower = .error (.diagnosed diagnostic) ↔
      ∃ node place, Stray tree node ∧ node.location?.mapM display = .ok place ∧
        diagnostic = { problem := .unsupportedNode node place "lowering" }) ∧
    (∀ node fault, Stray tree node → node.location?.mapM display = .error fault →
      tree.lower = .error (.unwritten fault)) ∧
    ((∀ node, ¬Stray tree node) ↔ ∃ name constant, Spine name constant tree) ∧
    (∀ text digits start inner,
      Spine (.identifier (.text text) start) (.integerConstant (.text digits) inner) tree →
      (∀ failure, (Tree.text digits).integerValue = .error failure →
        tree.lower = .error failure) ∧
      ∀ value, (Tree.text digits).integerValue = .ok value →
        tree.lower = .ok { function :=
          { name := .text text
            instructions := [.mov (.immediate (.number value)) (.register (.text "eax")), .ret] } }) ∧
    (∀ machine, tree.lower = .ok machine → ∀ target diagnostic,
      machine.emit target ≠ .error (.diagnosed diagnostic)) ∧
    ∀ tokens lines program, Source.parse tokens lines = .ok program → ∀ diagnostic,
      program.lower ≠ .error (.diagnosed diagnostic) := by
  refine ⟨fun diagnostic => ⟨?_, ?_⟩, ?_, forall_not_stray_iff, ?_, ?_, ?_⟩
  · intro failed
    rcases stray_or_spine tree with ⟨node, stray⟩ | ⟨name, constant, spine⟩
    · rw [lower_of_stray stray] at failed
      obtain ⟨place, located, same⟩ :=
        Failure.unsupported_eq_diagnosed_iff.1 (Except.error.inj failed)
      exact ⟨node, place, stray, located, same⟩
    · exact absurd failed (spine.undiagnosed diagnostic)
  · rintro ⟨node, place, stray, located, same⟩
    rw [lower_of_stray stray, Failure.unsupported_eq_diagnosed_iff.2 ⟨place, located, same⟩]
  · intro node fault stray lost
    rw [lower_of_stray stray, Failure.unsupported_eq_unwritten_iff.2 lost]
  · intro text digits start inner spine
    rw [lower_of_texts spine]
    constructor
    · intro failure failed
      rw [failed]
      rfl
    · intro value found
      rw [found]
      rfl
  · intro machine lowered target diagnostic
    rcases stray_or_spine tree with ⟨node, stray⟩ | ⟨name, constant, spine⟩
    · rw [lower_of_stray stray] at lowered
      cases lowered
    · obtain ⟨name, value, rfl⟩ := spine.exists_returningTree lowered
      exact undiagnosed_emit_returningTree target name value diagnostic
  · intro tokens lines program _ diagnostic
    obtain ⟨name, constant, spine⟩ := exists_spine_of_program program
    exact spine.undiagnosed diagnostic

/-- A function only by the name of its kind is a stray, reported where it stands. A program that is
    one throughout is lowered. -/
theorem lower_reports_stray_lookalike :
    let start : Tree := .place (.text "f.c") (.number 3) (.number 7)
    let body : Tree := .returnStatement
      (.constantExpression (.integerConstant (.text "017") start) .nothing) start
    let double : Tree := .foreign "FunctionNode"
      [("name", .identifier (.text "f") .nothing), ("body", body), ("location", start)]
    let definition : Tree := .function (.identifier (.text "f") start) body .nothing .nothing .nothing
    (Stray (.program double .nothing) double ∧
      (Tree.program double .nothing).lower = .error (.diagnosed
        { problem := .unsupportedNode double (some "f.c:3:7") "lowering" })) ∧
    Spine (.identifier (.text "f") start) (.integerConstant (.text "017") start)
        (.program definition start) ∧
      (Tree.program definition start).lower = .ok (.returning "f" 15) := by
  intro start body double definition
  have shown : start.display = .ok "f.c:3:7" :=
    display_place "f.c" (Numeral.small_of_lt (by decide)) (Numeral.small_of_lt (by decide))
  have located : double.location?.mapM display = .ok (some "f.c:3:7") := by
    change (some start).mapM display = _
    rw [Option.mapM_some, shown]
    rfl
  have stray : Stray (.program double .nothing) double := .function nofun
  have spine : Spine (.identifier (.text "f") start) (.integerConstant (.text "017") start)
      (.program definition start) := .whole
  have octal : IsConstant "017".toList := by decide
  have value : MicroC.constantValue "017".toList = 15 := by decide
  have read : (Tree.text "017").integerValue = .ok 15 := by
    rw [integerValue, Numeral.read_constant octal, if_neg (by decide), value]
    rfl
  refine ⟨⟨stray, ?_⟩, spine, ?_⟩
  · exact ((lower_reports_stray (.program double .nothing)).1 _).2
      ⟨double, some "f.c:3:7", stray, located, rfl⟩
  · obtain ⟨-, -, -, texts, -⟩ := lower_reports_stray (.program definition start)
    exact (texts "f" "017" start start spine).2 15 read

/-- A stray is not reported if its location is too long to be written. -/
theorem lower_unreported_on_long_location :
    let location : Tree := .foreign "Loc"
      [("filename", .text "z.c"), ("line", .immediate (.number (10 ^ 4300))), ("column", .number 1)]
    let stray : Tree := .foreign "W" [("location", location)]
    Stray (.program stray .nothing) stray ∧
      (Tree.program stray .nothing).lower = .error (.numeral .tooLarge) := by
  have large := Numeral.write_of_le (Numeral.le_natAbs_ten_pow 4300)
  generalize (10 ^ 4300 : Int) = line at large ⊢
  intro location node
  have stray : Stray (.program node .nothing) node := .function nofun
  have lost : node.location?.mapM display = .error (.numeral .tooLarge) := by
    change (some location).mapM display = _
    simp only [Option.mapM_some, location, display, write, writeFields, large]
    rfl
  refine ⟨stray, ?_⟩
  rw [lower_of_stray stray, Failure.unsupported_eq_unwritten_iff.2 lost]
  rfl

end Tree

end MicroC
