import MicroC.Tree.Outline

/-! # Indentation

A visit changes the depth of the sheet on its way down and back up. If it comes to its end, the depth
is what it was, and the lines that it has added stand as deep as there are indenting nodes above them;
a node that is passed without a line of its own adds no depth. If it stops halfway, the sheet stays at
some depth, which the next outline does not see.

Main statements: `leaves_visit`, what a visit leaves on the sheet, and `visit_balanced_print_fresh`.
-/

namespace MicroC.Outline

/-! ## What stands above a line -/

/-- The kinds of the nodes that indent what stands below them. -/
def Style.indentingKinds : Style → List String
  | .source => ["ProgramNode", "FunctionNode", "ReturnStatement"]
  | .machine => ["AsmProgram", "AsmFunction"]

/-- How many of the nodes indent. -/
def Style.level (style : Style) (nodes : List Tree) : Nat :=
  nodes.countP fun node => node.kind ∈ style.indentingKinds

/-- A way down a tree to a node, with the trees that it passes from the outside in. It goes on from
    a tree to what a field holds, or to an item of what a field holds. -/
inductive Way : Tree → List Tree → Tree → Prop where
  | here {tree : Tree} : Way tree [] tree
  | field {tree value node : Tree} {name : String} {above : List Tree}
      (held : (name, value) ∈ tree.fields) (rest : Way value above node) :
      Way tree (tree :: above) node
  | item {tree value item node : Tree} {name : String} {items above : List Tree}
      (held : (name, value) ∈ tree.fields) (listed : value.items = .ok items)
      (member : item ∈ items) (rest : Way item above node) : Way tree (tree :: above) node

/-- A line of an outline before it is indented. -/
structure Entry where
  /-- The trees above the node, from the outside in. -/
  above : List Tree
  /-- The node that the line is for. -/
  node : Tree
  /-- What the line says. -/
  text : String

/-- The entry that a tree itself has. -/
def Style.own (style : Style) (tree : Tree) : List Entry :=
  match style.line? tree with
  | some (.ok text) => [{ above := [], node := tree, text }]
  | _ => []

/-- What is visited below a tree. -/
def Style.visited (style : Style) (tree : Tree) : List Tree :=
  (style.below tree).toOption.getD []

theorem Style.below_of_mem_visited {style : Style} {tree child : Tree}
    (member : child ∈ style.visited tree) :
    ∃ trees, style.below tree = .ok trees ∧ child ∈ trees := by
  unfold visited at member
  cases below : style.below tree with
  | error failure =>
      rw [below] at member
      cases member
  | ok trees =>
      rw [below] at member
      exact ⟨trees, rfl, member⟩

/-- The entries of the lines that a visit writes, in their order. -/
def Style.entries (style : Style) (tree : Tree) : List Entry :=
  style.own tree ++ (style.visited tree).attach.flatMap fun child =>
    (style.entries child.1).map fun entry => { entry with above := tree :: entry.above }
termination_by tree.size
decreasing_by
  obtain ⟨trees, below, member⟩ := Style.below_of_mem_visited child.2
  exact size_lt_of_mem_below below member

theorem Style.entries_eq (style : Style) (tree : Tree) :
    style.entries tree = style.own tree ++ (style.visited tree).flatMap fun child =>
      (style.entries child).map fun entry => { entry with above := tree :: entry.above } := by
  rw [entries]
  simp only [List.flatMap_subtype, List.unattach_attach]

/-- An entry as it is written from a depth on: two blanks for each level. -/
def Entry.render (style : Style) (depth : Nat) (entry : Entry) : String :=
  String.ofList (List.replicate (2 * (depth + style.level entry.above)) ' ') ++ entry.text

/-! ## Entries stand where they say -/

theorem way_of_mem_children {tree child node : Tree} {above : List Tree}
    (member : child ∈ tree.children) (rest : Way child above node) :
    Way tree (tree :: above) node := by
  obtain ⟨⟨name, value⟩, held, inside⟩ := List.mem_flatMap.1 member
  rcases Tree.eq_or_mem_of_mem_nodesIn inside with rfl | ⟨items, rfl, among⟩
  · exact .field held rest
  · exact .item held rfl among rest

theorem way_of_need {tree child node : Tree} {name : String} {above trees : List Tree}
    (below : (do return [← tree.need name] : Except Failure (List Tree)) = .ok trees)
    (member : child ∈ trees) (rest : Way child above node) : Way tree (tree :: above) node := by
  cases found : tree.need name with
  | error failure => simp [found, bind, Except.bind] at below
  | ok value =>
      simp only [found, bind, Except.bind, pure, Except.pure, Except.ok.injEq] at below
      subst below
      rw [List.mem_singleton] at member
      exact .field (Tree.mem_fields_of_field? (Tree.field?_of_need found)) (member ▸ rest)

theorem way_of_needItems {tree child node : Tree} {name : String} {above trees : List Tree}
    (below : tree.needItems name = .ok trees) (member : child ∈ trees)
    (rest : Way child above node) : Way tree (tree :: above) node := by
  unfold Tree.needItems at below
  cases found : tree.need name with
  | error failure => simp [found, bind, Except.bind] at below
  | ok value =>
      simp only [found, bind, Except.bind] at below
      exact .item (Tree.mem_fields_of_field? (Tree.field?_of_need found)) below member rest

theorem way_of_mem_below {style : Style} {tree child node : Tree} {above trees : List Tree}
    (below : style.below tree = .ok trees) (member : child ∈ trees) (rest : Way child above node) :
    Way tree (tree :: above) node := by
  unfold Style.below at below
  split at below
  all_goals first
    | exact way_of_need below member rest
    | exact way_of_needItems below member rest
    | (cases below; simp at member)
    | (cases below; exact way_of_mem_children member rest)

theorem Style.placed_of_mem_entries {style : Style} {tree : Tree} {entry : Entry}
    (member : entry ∈ style.entries tree) :
    Way tree entry.above entry.node ∧ style.line? entry.node = some (.ok entry.text) := by
  rw [entries_eq, List.mem_append] at member
  rcases member with first | lower
  · unfold own at first
    split at first
    next text shown =>
      rw [List.mem_singleton] at first
      subst first
      exact ⟨.here, shown⟩
    next => cases first
  · obtain ⟨child, visited, inner⟩ := List.mem_flatMap.1 lower
    obtain ⟨deeper, inside, rfl⟩ := List.mem_map.1 inner
    obtain ⟨trees, below, among⟩ := below_of_mem_visited visited
    obtain ⟨way, shown⟩ := placed_of_mem_entries inside
    exact ⟨way_of_mem_below below among way, shown⟩
termination_by tree.size
decreasing_by exact size_lt_of_mem_below below among

/-! ## What a visit leaves -/

/-- If it comes to its end, the writing leaves the depth as it was, and behind the lines that were
    there it leaves those that it has for this depth. -/
def Leaves (writing : Writing Unit) (lines : Nat → List String) : Prop :=
  ∀ sheet after, writing.run.run sheet = (.ok (), after) →
    after = { lines := sheet.lines ++ lines sheet.depth, depth := sheet.depth }

theorem run_bind_eq_ok {first : Writing Unit} {next : Unit → Writing Unit} {sheet after : Sheet}
    (returned : (first >>= next).run.run sheet = (.ok (), after)) :
    ∃ middle, first.run.run sheet = (.ok (), middle) ∧
      (next ()).run.run middle = (.ok (), after) := by
  have run : (first >>= next).run.run sheet =
      (ExceptT.bindCont next (first.run.run sheet).1 : StateM Sheet _).run
        (first.run.run sheet).2 := rfl
  cases here : first.run.run sheet with
  | mk outcome middle =>
      rw [run, here] at returned
      cases outcome with
      | error failure => cases returned
      | ok value => exact ⟨middle, rfl, returned⟩

namespace Leaves

variable {first second : Writing Unit} {lines more : Nat → List String}

theorem bind (one : Leaves first lines) (two : Leaves second more) :
    Leaves (first >>= fun _ => second) fun depth => lines depth ++ more depth := by
  intro sheet after returned
  obtain ⟨middle, here, later⟩ := run_bind_eq_ok returned
  obtain rfl := one sheet middle here
  rw [two _ after later, List.append_assoc]

theorem nothing : Leaves (pure ()) fun _ => [] := by
  intro sheet after returned
  cases returned
  rw [List.append_nil]

theorem stopped (failure : Failure) : Leaves (throw failure) lines := by
  intro sheet after returned
  cases returned

/-- Going down and up again around a writing leaves its lines one level deeper. -/
theorem indented (inner : Leaves first lines) :
    Leaves (do modify Sheet.deeper; first; modify Sheet.shallower) fun depth => lines (depth + 1) := by
  intro sheet after returned
  obtain ⟨lower, down, rest⟩ := run_bind_eq_ok returned
  obtain ⟨middle, here, up⟩ := run_bind_eq_ok rest
  cases down
  obtain rfl := inner _ middle here
  cases up
  rfl

theorem forM {action : Tree → Writing Unit} {trees : List Tree} {lines : Tree → Nat → List String}
    (each : ∀ tree ∈ trees, Leaves (action tree) (lines tree)) :
    Leaves (trees.forM action) fun depth => trees.flatMap fun tree => lines tree depth := by
  induction trees with
  | nil => exact nothing
  | cons tree rest ih =>
      rw [List.forall_mem_cons] at each
      exact each.1.bind (ih each.2)

end Leaves

theorem leaves_writeLine (style : Style) (tree : Tree) :
    Leaves (writeLine (style.line? tree)) fun depth =>
      (style.own tree).map (Entry.render style depth) := by
  unfold Style.own
  cases style.line? tree with
  | none => exact Leaves.nothing
  | some line =>
      cases line with
      | error failure => exact Leaves.stopped failure
      | ok text =>
          intro sheet after returned
          cases returned
          rfl

theorem Style.indents_eq (style : Style) (tree : Tree) :
    style.indents tree = decide (tree.kind ∈ style.indentingKinds) := by
  cases style <;> rfl

theorem map_render_below (style : Style) (tree : Tree) (entries : List Entry) (depth : Nat) :
    (entries.map fun entry => { entry with above := tree :: entry.above }).map
        (Entry.render style depth) =
      entries.map (Entry.render style (if style.indents tree then depth + 1 else depth)) := by
  rw [List.map_map]
  apply List.map_congr_left
  intro entry _
  simp only [Function.comp_apply, Entry.render, Style.level, List.countP_cons, Style.indents_eq,
    decide_eq_true_eq]
  split
  · rw [Nat.add_right_comm depth 1, Nat.add_assoc depth]
  · rfl

/-- A visit that comes to its end has added the lines of the tree and is as deep as before. -/
theorem leaves_visit (style : Style) (tree : Tree) :
    Leaves (visit style tree) fun depth => (style.entries tree).map (Entry.render style depth) := by
  cases below : style.below tree with
  | error failure =>
      -- What stands below cannot be visited, so that the visit never ends.
      rw [visit_eq, below]
      intro sheet after returned
      obtain ⟨middle, -, rest⟩ := run_bind_eq_ok returned
      split at rest <;> cases rest
  | ok trees =>
      -- What stands below is smaller, so that by induction each visit of it leaves its lines.
      have lower : Leaves (trees.forM (visit style)) fun depth =>
          trees.flatMap fun child => (style.entries child).map (Entry.render style depth) :=
        Leaves.forM fun child member => leaves_visit style child
      have visited : style.visited tree = trees := by
        rw [Style.visited, below]
        rfl
      have shown : (fun depth => (style.entries tree).map (Entry.render style depth)) = fun depth =>
          (style.own tree).map (Entry.render style depth) ++ trees.flatMap fun child =>
            (style.entries child).map
              (Entry.render style (if style.indents tree then depth + 1 else depth)) := by
        funext depth
        rw [Style.entries_eq, visited, List.map_append, List.map_flatMap]
        simp only [map_render_below]
      rw [shown, visit_eq, below]
      apply (leaves_writeLine style tree).bind
      cases style.indents tree with
      | true => exact lower.indented
      | false =>
          have whole := lower.bind Leaves.nothing
          simp only [List.append_nil] at whole
          exact whole
termination_by tree.size
decreasing_by exact size_lt_of_mem_below below member

/-! ## Using a sheet again -/

theorem printAll_eq_map (style : Style) (sheet : Sheet) (trees : List Tree) :
    printAll style sheet trees = trees.map (outline style) := by
  induction trees generalizing sheet with
  | nil => rfl
  | cons tree rest ih =>
      -- The sheet is cleared first, so that what it held is never read.
      have fresh : (print style tree).run.run sheet = (print style tree).run.run {} := rfl
      rw [printAll, fresh, List.map_cons, outline]
      cases (print style tree).run.run {} with
      | mk outcome after => exact congrArg (outcome :: ·) (ih after)

/-- A visit that comes to its end leaves the depth of the sheet as it was and adds lines behind those
    that it found, each indented by two blanks for every indenting node above it on its way. Outlines
    that are written one after the other on one sheet come to what each comes to on a new one, also
    behind outlines that failed halfway. -/
theorem visit_balanced_print_fresh (style : Style) :
    (∀ tree sheet after, (visit style tree).run.run sheet = (.ok (), after) →
      after.depth = sheet.depth ∧
      after.lines = sheet.lines ++ (style.entries tree).map fun entry =>
        String.ofList (List.replicate
          (2 * (sheet.depth + entry.above.countP fun node => node.kind ∈ style.indentingKinds)) ' ') ++
          entry.text) ∧
    (∀ tree, ∀ entry ∈ style.entries tree,
      Way tree entry.above entry.node ∧ style.line? entry.node = some (.ok entry.text)) ∧
    ∀ sheet trees, printAll style sheet trees = trees.map (outline style) := by
  refine ⟨?_, fun tree entry => Style.placed_of_mem_entries, printAll_eq_map style⟩
  intro tree sheet after returned
  obtain rfl := leaves_visit style tree sheet after returned
  exact ⟨rfl, rfl⟩

/-- A constant behind a node of an unknown kind stands one level below the program, whose outline was
    begun at depth one. -/
theorem visit_balanced_print_fresh_box :
    let constant : Tree := .constantExpression (.integerConstant (.text "2") .nothing) .nothing
    let box : Tree := .foreign "Box" [("kept", .tuple [.nothing, constant])]
    let after : Sheet := { lines := ["top", "  Program", "    Constant 2"], depth := 1 }
    (visit .source (.program box .nothing)).run.run { lines := ["top"], depth := 1 } =
        (.ok (), after) ∧
      after.lines = ["top"] ++ (Style.source.entries (.program box .nothing)).map fun entry =>
        String.ofList (List.replicate (2 * (1 + entry.above.countP fun node =>
          node.kind ∈ Style.source.indentingKinds)) ' ') ++ entry.text := by
  intro constant box after
  have returned : (visit .source (.program box .nothing)).run.run { lines := ["top"], depth := 1 } =
      (.ok (), after) := by
    have leaf : visit .source constant = modify (·.write "Constant 2") := by
      rw [visit_eq]
      rfl
    have inner : Style.source.below box = .ok [constant] := rfl
    have outer : Style.source.below (.program box .nothing) = .ok [box] := rfl
    simp only [visit_eq _ (.program _ _), visit_eq _ box, outer, inner, List.forM_eq_forM,
      List.forM_cons, List.forM_nil, leaf]
    rfl
  exact ⟨returned, ((visit_balanced_print_fresh .source).1 _ _ _ returned).2⟩

end MicroC.Outline
