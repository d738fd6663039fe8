import MicroC.Proofs.Listing
import MicroC.Proofs.Writing

/-! # Rejected trees

Emission goes through a tree depth first, whatever stands where. It stops at the first node that has
no text: a node of an unknown kind, or an immediate operand that is too long to be written. A node of
an unknown kind is reported with its location, so that one whose location cannot be written is not
reported as such.

Main statements: `Tree.settles_emit`, what emission comes to is settled by the first node of the walk
at which it stops, and `Tree.emit_rejects_first_stop`, which tells the outcomes apart.
-/

namespace MicroC

namespace Tree

/-! ## The walk -/

/-- The kinds of the nodes that have a text. -/
def machineKinds : List String :=
  ["AsmProgram", "AsmFunction", "Mov", "Ret", "Immediate", "Register"]

/-- What emission goes on to from a node, in order. -/
def parts (tree : Tree) : List Tree :=
  match tree.kind with
  | "AsmProgram" => (tree.field? "function").toList
  | "AsmFunction" =>
      match tree.field? "instructions" with
      | some (.tuple instructions) => instructions
      | _ => []
  | "Mov" => (tree.field? "source").toList ++ (tree.field? "destination").toList
  | _ => []

theorem size_lt_of_mem_parts {tree part : Tree} (member : part ∈ tree.parts) :
    part.size < tree.size := by
  have held {name : String} (field : part ∈ (tree.field? name).toList) : part.size < tree.size :=
    size_lt_of_field? (Option.mem_toList.1 field)
  unfold parts at member
  split at member
  · exact held member
  · split at member
    next instructions field =>
      have := size_lt_of_field? field
      have := size_le_of_mem member
      simp only [size] at *
      omega
    next => cases member
  · exact (List.mem_append.1 member).elim held held
  · cases member

/-- The nodes that emission meets, depth first, if nothing stops it. -/
def depthFirst (tree : Tree) : List Tree :=
  tree :: tree.parts.attach.flatMap fun part => part.1.depthFirst
termination_by tree.size
decreasing_by exact size_lt_of_mem_parts part.2

theorem depthFirst_eq (tree : Tree) :
    tree.depthFirst = tree :: tree.parts.flatMap depthFirst := by
  rw [depthFirst]
  simp only [List.flatMap_subtype, List.unattach_attach]

/-- A node that has the fields of its kind, if its kind has a text. The nodes below it may be of any
    kind. -/
structure Complete (tree : Tree) : Prop where
  program : tree.kind = "AsmProgram" → ∃ definition, tree.field? "function" = some definition
  function : tree.kind = "AsmFunction" → ∃ name instructions,
    tree.field? "name" = some (.text name) ∧
      tree.field? "instructions" = some (.tuple instructions)
  mov : tree.kind = "Mov" → ∃ source destination,
    tree.field? "source" = some source ∧ tree.field? "destination" = some destination
  immediate : tree.kind = "Immediate" → ∃ value, tree.field? "value" = some (.number value)
  register : tree.kind = "Register" → ∃ name, tree.field? "name" = some (.text name)

/-- All nodes that emission may meet have the fields of their kinds. -/
def Formed (tree : Tree) : Prop :=
  ∀ node ∈ tree.depthFirst, node.Complete

theorem Formed.complete {tree : Tree} (formed : tree.Formed) : tree.Complete :=
  formed tree (by simp [depthFirst_eq tree])

theorem Formed.part {tree part : Tree} (formed : tree.Formed) (member : part ∈ tree.parts) :
    part.Formed := by
  intro node below
  apply formed node
  rw [depthFirst_eq tree]
  exact List.mem_cons_of_mem _ (List.mem_flatMap.2 ⟨part, member, below⟩)

/-! ## Where emission stops -/

/-- A node of a kind that has no text. -/
def Unknown (tree : Tree) : Prop :=
  tree.kind ∉ machineKinds

/-- An immediate operand of more digits than may be written. -/
def Oversized (tree : Tree) : Prop :=
  tree.kind = "Immediate" ∧
    ∃ value : Int, tree.field? "value" = some (.number value) ∧ 10 ^ 4300 ≤ value.natAbs

theorem Unknown.not_oversized {tree : Tree} (unknown : tree.Unknown) : ¬tree.Oversized := by
  rintro ⟨kind, -⟩
  exact unknown (by rw [kind]; decide)

/-- A node that has no text, whatever stands below it. -/
def Stops (tree : Tree) : Prop :=
  tree.Unknown ∨ tree.Oversized

/-- The failure at a node that has no text. -/
def refusal (tree : Tree) : Failure :=
  if tree.kind ∈ machineKinds then .numeral .tooLarge else .unsupported tree "emission"

theorem refusal_of_oversized {tree : Tree} (oversized : tree.Oversized) :
    tree.refusal = .numeral .tooLarge :=
  if_pos (by rw [oversized.1]; decide)

/-- The first node of a walk that has no text. -/
inductive FirstStop : List Tree → Tree → Prop where
  | here {node : Tree} {rest : List Tree} (stops : node.Stops) : FirstStop (node :: rest) node
  | later {passed node : Tree} {rest : List Tree} (passes : ¬passed.Stops)
      (next : FirstStop rest node) : FirstStop (passed :: rest) node

namespace FirstStop

variable {walk : List Tree} {node : Tree}

theorem mem (first : FirstStop walk node) : node ∈ walk := by
  induction first with
  | here => exact List.mem_cons_self
  | later _ _ ih => exact List.mem_cons_of_mem _ ih

theorem stops (first : FirstStop walk node) : node.Stops := by
  induction first with
  | here stops => exact stops
  | later _ _ ih => exact ih

theorem unique {other : Tree} (first : FirstStop walk node) (second : FirstStop walk other) :
    node = other := by
  induction first with
  | here stops =>
      cases second with
      | here => rfl
      | later passes => exact absurd stops passes
  | later passes _ ih =>
      cases second with
      | here stops => exact absurd stops passes
      | later _ next => exact ih next

theorem append_right (first : FirstStop walk node) (later : List Tree) :
    FirstStop (walk ++ later) node := by
  induction first with
  | here stops => exact .here stops
  | later passes _ ih => exact .later passes ih

theorem append_left {before : List Tree} (passed : ∀ node ∈ before, ¬node.Stops)
    (first : FirstStop walk node) : FirstStop (before ++ walk) node := by
  induction before with
  | nil => exact first
  | cons head rest ih =>
      rw [List.forall_mem_cons] at passed
      exact .later passed.1 (ih passed.2)

end FirstStop

/-- What comes of going through a walk: some value if every node has a text, or else the failure of
    the first that has none. -/
inductive Settles (walk : List Tree) {α : Type} : Except Failure α → Prop where
  | passed {value : α} (passed : ∀ node ∈ walk, ¬node.Stops) : Settles walk (.ok value)
  | stopped {node : Tree} (first : FirstStop walk node) : Settles walk (.error node.refusal)

namespace Settles

variable {walk : List Tree} {α β : Type} {outcome : Except Failure α}

theorem bind {later : List Tree} {next : α → Except Failure β} (settled : Settles walk outcome)
    (rest : ∀ value, Settles later (next value)) :
    Settles (walk ++ later) (outcome >>= next) := by
  cases settled with
  | stopped first => exact .stopped (first.append_right later)
  | @passed value clear =>
      -- Nothing has stopped before, so the rest decides.
      have rest := rest value
      change Settles _ (next value)
      generalize next value = outcome at rest ⊢
      cases rest with
      | passed clear' => exact .passed fun node member =>
          (List.mem_append.1 member).elim (clear node) (clear' node)
      | stopped first => exact .stopped (first.append_left clear)

theorem pure_nil (value : α) : Settles [] (pure value : Except Failure α) :=
  .passed fun _ member => by cases member

theorem cons {node : Tree} (passes : ¬node.Stops) (settled : Settles walk outcome) :
    Settles (node :: walk) outcome := by
  cases settled with
  | passed clear => exact .passed (List.forall_mem_cons.2 ⟨passes, clear⟩)
  | stopped first => exact .stopped (.later passes first)

/-- Items that are gone through one after the other. -/
theorem mapM {items : List Tree} {action : Tree → Except Failure α}
    (each : ∀ item ∈ items, Settles item.depthFirst (action item)) :
    Settles (items.flatMap depthFirst) (items.mapM action) := by
  induction items with
  | nil => exact pure_nil []
  | cons item rest ih =>
      rw [List.forall_mem_cons] at each
      rw [List.flatMap_cons, List.mapM_cons]
      refine each.1.bind fun first => ?_
      have := (ih each.2).bind fun others => pure_nil (first :: others)
      rwa [List.append_nil] at this

theorem eq_error_iff {failure : Failure} (settled : Settles walk outcome) :
    outcome = .error failure ↔ ∃ node, FirstStop walk node ∧ node.refusal = failure := by
  cases settled with
  | passed clear =>
      constructor
      · intro same
        cases same
      · rintro ⟨node, first, -⟩
        exact absurd first.stops (clear node first.mem)
  | stopped first =>
      constructor
      · intro same
        exact ⟨_, first, Except.error.inj same⟩
      · rintro ⟨node, other, rfl⟩
        rw [first.unique other]

theorem exists_ok_iff (settled : Settles walk outcome) :
    (∃ value, outcome = .ok value) ↔ ∀ node ∈ walk, ¬node.Stops := by
  cases settled with
  | passed clear => exact ⟨fun _ => clear, fun _ => ⟨_, rfl⟩⟩
  | stopped first =>
      constructor
      · rintro ⟨value, same⟩
        cases same
      · intro clear
        exact absurd first.stops (clear _ first.mem)

end Settles

/-! ## Nodes of each kind -/

variable {tree : Tree}

theorem need_of_field? {value : Tree} {name : String} (held : tree.field? name = some value) :
    tree.need name = .ok value := by
  rw [need, held]

theorem needText_of_field? {value : Tree} {name : String} (held : tree.field? name = some value) :
    tree.needText name = value.sentence := by
  rw [needText, need_of_field? held]
  rfl

theorem passes_of_kind (kind : String) (same : tree.kind = kind) (known : kind ∈ machineKinds)
    (other : kind ≠ "Immediate") : ¬tree.Stops := by
  subst same
  rintro (unknown | oversized)
  · exact unknown known
  · exact other oversized.1

section

variable {target : Target} (below : ∀ part ∈ tree.parts, Settles part.depthFirst (part.emit target))
include below

theorem settles_program {definition : Tree} (kind : tree.kind = "AsmProgram")
    (held : tree.field? "function" = some definition) :
    Settles tree.depthFirst (tree.emit target) := by
  have parts : tree.parts = [definition] := by
    rw [parts, kind, held]
    rfl
  rw [parts, List.forall_mem_singleton] at below
  rw [depthFirst_eq, parts, List.flatMap_singleton, emit, kind, need_of_field? held]
  exact below.cons (passes_of_kind _ kind (by decide) (by decide))

theorem settles_function {name : String} {instructions : List Tree}
    (kind : tree.kind = "AsmFunction") (named : tree.field? "name" = some (.text name))
    (held : tree.field? "instructions" = some (.tuple instructions)) :
    Settles tree.depthFirst (tree.emit target) := by
  have parts : tree.parts = instructions := by
    rw [parts, kind, held]
    rfl
  have items : tree.needItems "instructions" = .ok instructions := by
    rw [needItems, need_of_field? held]
    rfl
  rw [parts] at below
  have body := (Settles.mapM below).bind fun body =>
    Settles.pure_nil (Assembly.function (target.symbol name) body)
  rw [List.append_nil, ← mapM_attach_emit] at body
  rw [depthFirst_eq, parts, emit, kind, needText_of_field? named, items]
  exact body.cons (passes_of_kind _ kind (by decide) (by decide))

theorem settles_mov {source destination : Tree} (kind : tree.kind = "Mov")
    (held : tree.field? "source" = some source)
    (held' : tree.field? "destination" = some destination) :
    Settles tree.depthFirst (tree.emit target) := by
  have parts : tree.parts = [source, destination] := by
    rw [parts, kind, held, held']
    rfl
  rw [parts, List.forall_mem_cons, List.forall_mem_singleton] at below
  have operands := below.1.bind fun source => below.2.bind fun destination =>
    Settles.pure_nil (Assembly.line "movl" (source ++ ", " ++ destination))
  rw [depthFirst_eq, parts, emit, kind, need_of_field? held, need_of_field? held']
  exact operands.cons (passes_of_kind _ kind (by decide) (by decide))

end

theorem settles_immediate {target : Target} {value : Int} (kind : tree.kind = "Immediate")
    (held : tree.field? "value" = some (.number value)) :
    Settles tree.depthFirst (tree.emit target) := by
  have parts : tree.parts = [] := by
    rw [parts, kind]
    rfl
  have emitted : tree.emit target =
      (do return "$" ++ (← (Numeral.write value).mapError Failure.numeral)) := by
    rw [emit, kind, needText_of_field? held, sentence_number]
    rfl
  rw [depthFirst_eq, parts, emitted]
  by_cases small : value.natAbs < 10 ^ 4300
  · have passes : ¬tree.Stops := by
      rintro (unknown | ⟨-, other, held', large⟩)
      · exact unknown (by rw [kind]; decide)
      · obtain rfl : value = other := by simpa [held] using held'
        exact Nat.not_lt.2 large small
    rw [Numeral.write_of_lt small]
    exact .cons passes (.pure_nil _)
  · have large := Nat.not_lt.1 small
    have oversized : tree.Oversized := ⟨kind, value, held, large⟩
    rw [Numeral.write_of_le large]
    change Settles _ (.error (.numeral .tooLarge))
    rw [← refusal_of_oversized oversized]
    exact .stopped (.here (.inr oversized))

theorem settles_register {target : Target} {name : String} (kind : tree.kind = "Register")
    (named : tree.field? "name" = some (.text name)) :
    Settles tree.depthFirst (tree.emit target) := by
  have parts : tree.parts = [] := by
    rw [parts, kind]
    rfl
  rw [depthFirst_eq, parts, emit, kind, needText_of_field? named]
  exact .cons (passes_of_kind _ kind (by decide) (by decide)) (.pure_nil _)

theorem settles_ret {target : Target} (kind : tree.kind = "Ret") :
    Settles tree.depthFirst (tree.emit target) := by
  have parts : tree.parts = [] := by
    rw [parts, kind]
    rfl
  rw [depthFirst_eq, parts, emit, kind]
  exact .cons (passes_of_kind _ kind (by decide) (by decide)) (.pure_nil _)

theorem settles_unknown {target : Target} (unknown : tree.Unknown) :
    Settles tree.depthFirst (tree.emit target) := by
  have refused : tree.emit target = .error tree.refusal := by
    rw [refusal, if_neg unknown, emit]
    split <;> first | rfl | exact absurd (by rw [‹tree.kind = _›]; decide) unknown
  rw [depthFirst_eq, refused]
  exact .stopped (.here (.inl unknown))

/-- What emission comes to is settled by the first node of the walk that has no text. -/
theorem settles_emit (target : Target) (tree : Tree) (formed : tree.Formed) :
    Settles tree.depthFirst (tree.emit target) := by
  -- The parts are smaller than the tree, so that by induction all of them are settled.
  have below : ∀ part ∈ tree.parts, Settles part.depthFirst (part.emit target) :=
    fun part member => settles_emit target part (formed.part member)
  have complete := formed.complete
  by_cases known : tree.kind ∈ machineKinds
  · simp only [machineKinds, List.mem_cons, List.not_mem_nil, or_false] at known
    rcases known with kind | kind | kind | kind | kind | kind
    · obtain ⟨definition, held⟩ := complete.program kind
      exact settles_program below kind held
    · obtain ⟨name, instructions, named, held⟩ := complete.function kind
      exact settles_function below kind named held
    · obtain ⟨source, destination, held, held'⟩ := complete.mov kind
      exact settles_mov below kind held held'
    · exact settles_ret kind
    · obtain ⟨value, held⟩ := complete.immediate kind
      exact settles_immediate kind held
    · obtain ⟨name, named⟩ := complete.register kind
      exact settles_register kind named
  · exact settles_unknown known
termination_by tree.size
decreasing_by exact size_lt_of_mem_parts member

end Tree

/-! ## How emission fails -/

theorem Failure.unsupported_eq_diagnosed_iff {node : Tree} {activity : String}
    {diagnostic : Diagnostic} :
    unsupported node activity = .diagnosed diagnostic ↔
      ∃ place, node.location?.mapM Tree.display = .ok place ∧
        diagnostic = { problem := .unsupportedNode node place activity } := by
  rw [unsupported, Diagnostic.unsupported]
  cases node.location?.mapM Tree.display with
  | error fault =>
      obtain ⟨found, internal⟩ := exists_unwritten_eq_internal fault
      change unwritten fault = _ ↔ _
      rw [internal]
      constructor
      · intro same
        cases same
      · rintro ⟨_, located, _⟩
        cases located
  | ok place =>
      constructor
      · intro same
        exact ⟨place, rfl, (Failure.diagnosed.inj same).symm⟩
      · rintro ⟨_, found, rfl⟩
        cases found
        rfl

theorem Failure.unsupported_eq_unwritten_iff {node : Tree} {activity : String}
    {fault : Tree.WriteFault} :
    unsupported node activity = .unwritten fault ↔
      node.location?.mapM Tree.display = .error fault := by
  rw [unsupported, Diagnostic.unsupported]
  cases node.location?.mapM Tree.display with
  | error found =>
      change unwritten found = unwritten fault ↔ _
      rw [unwritten_inj, Except.error.injEq]
  | ok place =>
      obtain ⟨found, internal⟩ := exists_unwritten_eq_internal fault
      rw [internal]
      constructor
      · intro same
        cases same
      · intro same
        cases same

namespace Tree

variable {tree : Tree}

theorem refusal_of_unknown (unknown : tree.Unknown) :
    tree.refusal = .unsupported tree "emission" :=
  if_neg unknown

theorem Stops.refusal_eq_diagnosed_iff (stops : tree.Stops) {node : Tree} {place : Option String} :
    tree.refusal = .diagnosed { problem := .unsupportedNode node place "emission" } ↔
      tree = node ∧ tree.Unknown ∧ tree.location?.mapM display = .ok place := by
  rcases stops with unknown | oversized
  · rw [refusal_of_unknown unknown, Failure.unsupported_eq_diagnosed_iff]
    constructor
    · rintro ⟨found, located, same⟩
      cases same
      exact ⟨rfl, unknown, located⟩
    · rintro ⟨rfl, -, located⟩
      exact ⟨place, located, rfl⟩
  · rw [refusal_of_oversized oversized]
    constructor
    · intro same
      cases same
    · rintro ⟨-, unknown, -⟩
      exact absurd oversized unknown.not_oversized

theorem Stops.refusal_eq_unwritten_iff (stops : tree.Stops) {fault : WriteFault} :
    tree.refusal = .unwritten fault ↔
      tree.Oversized ∧ fault = .numeral .tooLarge ∨
        tree.Unknown ∧ tree.location?.mapM display = .error fault := by
  rcases stops with unknown | oversized
  · rw [refusal_of_unknown unknown, Failure.unsupported_eq_unwritten_iff]
    simp [unknown, unknown.not_oversized]
  · have known : ¬tree.Unknown := fun unknown => unknown.not_oversized oversized
    rw [refusal_of_oversized oversized]
    cases fault <;> simp [oversized, known, Failure.unwritten, Failure.numeral, eq_comm]

/-- Emission reports a node as unsupported exactly if that is the first node of the walk without a
    text, is of an unknown kind and has a location that can be written. It fails to write exactly if the
    first node without a text is an immediate operand that is too long, or one of an unknown kind with a
    location that cannot be written. Otherwise there is a text. -/
theorem emit_rejects_first_stop (target : Target) {tree : Tree} (formed : tree.Formed) :
    (∀ node place,
      tree.emit target =
          .error (.diagnosed { problem := .unsupportedNode node place "emission" }) ↔
        FirstStop tree.depthFirst node ∧ node.Unknown ∧
          node.location?.mapM display = .ok place) ∧
    (∀ fault,
      tree.emit target = .error (.unwritten fault) ↔
        ∃ node, FirstStop tree.depthFirst node ∧
          (node.Oversized ∧ fault = .numeral .tooLarge ∨
            node.Unknown ∧ node.location?.mapM display = .error fault)) ∧
    ((∃ text, tree.emit target = .ok text) ↔ ∀ node ∈ tree.depthFirst, ¬node.Stops) := by
  have settled := settles_emit target tree formed
  refine ⟨fun node place => ?_, fun fault => ?_, settled.exists_ok_iff⟩
  · rw [settled.eq_error_iff]
    constructor
    · rintro ⟨found, first, refused⟩
      obtain ⟨rfl, reason⟩ := first.stops.refusal_eq_diagnosed_iff.1 refused
      exact ⟨first, reason⟩
    · rintro ⟨first, reason⟩
      exact ⟨node, first, first.stops.refusal_eq_diagnosed_iff.2 ⟨rfl, reason⟩⟩
  · rw [settled.eq_error_iff]
    exact exists_congr fun node => and_congr_right fun first => first.stops.refusal_eq_unwritten_iff

/-- A name of the source inside a copy that is itself an operand of a copy, in front of an operand that
    is too long. -/
theorem emit_rejects_first_stop_nested :
    let stray : Tree := .identifier (.text "x") (.place (.text "f.c") (.number 3) (.number 7))
    let inner : Tree := .foreign "Mov" [("source", .register (.text "eax")), ("destination", stray)]
    let tree : Tree := .machineFunction (.text "f")
      (.tuple [.mov (.machineProgram .ret) inner, .immediate (.number (10 ^ 4300))])
    tree.Formed ∧ FirstStop tree.depthFirst stray ∧
      tree.emit .darwin =
        .error (.diagnosed { problem := .unsupportedNode stray (some "f.c:3:7") "emission" }) := by
  generalize (10 ^ 4300 : Int) = long
  intro stray inner tree
  have walk : tree.depthFirst =
      [tree, .mov (.machineProgram .ret) inner, .machineProgram .ret, .ret, inner,
        .register (.text "eax"), stray, .immediate (.number long)] := by
    simp [depthFirst_eq, parts, kind, field?, fields, List.lookup_cons, tree, inner, stray]
  have formed : tree.Formed := by
    rw [Formed, walk]
    simp only [List.forall_mem_cons, List.not_mem_nil, false_implies, implies_true, and_true]
    refine ⟨?_, ?_, ?_, ?_, ?_, ?_, ?_, ?_⟩ <;> constructor <;>
      simp [kind, field?, fields, List.lookup_cons, tree, inner, stray]
  have unknown : stray.Unknown := (by decide : "Identifier" ∉ machineKinds)
  have located : stray.location?.mapM display = .ok (some "f.c:3:7") := by
    change (some (Tree.place (.text "f.c") (.number 3) (.number 7))).mapM display = _
    rw [Option.mapM_some, display_place "f.c" (Numeral.small_of_lt (by decide))
      (Numeral.small_of_lt (by decide))]
    rfl
  have first : FirstStop tree.depthFirst stray := by
    rw [walk]
    refine .later (passes_of_kind "AsmFunction" rfl ?_ ?_) <|
      .later (passes_of_kind "Mov" rfl ?_ ?_) <| .later (passes_of_kind "AsmProgram" rfl ?_ ?_) <|
      .later (passes_of_kind "Ret" rfl ?_ ?_) <| .later (passes_of_kind "Mov" rfl ?_ ?_) <|
      .later (passes_of_kind "Register" rfl ?_ ?_) <| .here (.inl unknown)
    all_goals decide
  refine ⟨formed, first, ?_⟩
  exact ((emit_rejects_first_stop .darwin formed).1 stray _).2 ⟨first, unknown, located⟩

/-- A node of an unknown kind is not reported if its location is too long to be written. -/
theorem emit_unreported_on_long_location :
    let location : Tree := .foreign "Loc"
      [("filename", .text "z.c"), ("line", .immediate (.number (10 ^ 4300))), ("column", .number 1)]
    let tree : Tree := .foreign "W" [("location", location)]
    tree.Formed ∧ FirstStop tree.depthFirst tree ∧ tree.Unknown ∧
      tree.emit .linux = .error (.numeral .tooLarge) := by
  have large := Numeral.write_of_le (Numeral.le_natAbs_ten_pow 4300)
  generalize (10 ^ 4300 : Int) = line at large ⊢
  intro location tree
  have unknown : tree.Unknown := (by decide : "W" ∉ machineKinds)
  have walk : tree.depthFirst = [tree] := depthFirst_eq tree
  have first : FirstStop tree.depthFirst tree := by
    rw [walk]
    exact .here (.inl unknown)
  have formed : tree.Formed := by
    rw [Formed, walk, List.forall_mem_singleton]
    constructor <;> simp [kind, tree]
  have lost : tree.location?.mapM display = .error (.numeral .tooLarge) := by
    change (some location).mapM display = _
    simp only [Option.mapM_some, location, display, write, writeFields, large]
    rfl
  refine ⟨formed, first, unknown, (settles_emit .linux tree formed).eq_error_iff.2 ⟨tree, first, ?_⟩⟩
  exact first.stops.refusal_eq_unwritten_iff.2 (.inr ⟨unknown, lost⟩)

end Tree

end MicroC
