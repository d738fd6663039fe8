import MicroC.Location

/-! # Trees

A tree is any value that a node may hold: a plain value, a tuple, or a node with named fields. The
compiler builds only well-formed source and machine trees, but its printers, its lowering and its
emitter accept every tree and answer for the ones they cannot handle. So a field of a node may hold
any tree, also where the compiler puts only texts or integers.

Main statements: `size_lt_of_field?` and `size_lt_of_mem_children`, what a tree holds is smaller than
the tree, so traversals end.
-/

namespace MicroC

/-- A value that a node may hold. -/
inductive Tree where
  | nothing
  | truth (value : Bool)
  | number (value : Int)
  | text (value : String)
  | tuple (items : List Tree)
  /-- A location that stands as a value. -/
  | place (file line column : Tree)
  /-- A value of a kind that has no fields. Such values are told apart by their numbers. -/
  | plain (kind : String) (number : Nat := 0)
  | identifier (name location : Tree)
  | integerConstant (text location : Tree)
  | constantExpression (constant location : Tree)
  | returnStatement (expression location : Tree)
  | function (name body returnType parameters location : Tree)
  | program (function location : Tree)
  | immediate (value : Tree)
  | register (name : Tree)
  | mov (source destination : Tree)
  | ret
  | machineFunction (name instructions : Tree)
  | machineProgram (function : Tree)
  /-- A node of a kind that the compiler does not know, with its fields in order. Kinds of one name are
      told apart by their numbers. -/
  | foreign (kind : String) (fields : List (String × Tree)) (number : Nat := 0)
  deriving Repr, Inhabited

namespace Tree

/-- An optional text as a tree. -/
def ofText? : Option String → Tree
  | some value => .text value
  | none => .nothing

/-- A location as a tree. -/
def ofLocation (location : Location) : Tree :=
  .place (.text location.file) (.number location.line) (.number location.column)

/-- An optional location as a tree. -/
def ofLocation? : Option Location → Tree
  | some location => ofLocation location
  | none => .nothing

/-- A bare node: it has no fields and belongs to no kind of its own. -/
def bare (number : Nat) : Tree := .plain "ASTNode" number

/-- The name of the kind a tree belongs to. -/
def kind : Tree → String
  | .nothing => "NoneType"
  | .truth _ => "bool"
  | .number _ => "int"
  | .text _ => "str"
  | .tuple _ => "tuple"
  | .place .. => "SourceLocation"
  | .plain kind _ => kind
  | .identifier .. => "Identifier"
  | .integerConstant .. => "IntegerConstant"
  | .constantExpression .. => "ConstantExpression"
  | .returnStatement .. => "ReturnStatement"
  | .function .. => "FunctionNode"
  | .program .. => "ProgramNode"
  | .immediate _ => "Immediate"
  | .register _ => "Register"
  | .mov .. => "Mov"
  | .ret => "Ret"
  | .machineFunction .. => "AsmFunction"
  | .machineProgram _ => "AsmProgram"
  | .foreign kind _ _ => kind

/-- The named fields of a tree, in order. Values that are no nodes have none. -/
def fields : Tree → List (String × Tree)
  | .place file line column => [("filename", file), ("line", line), ("column", column)]
  | .identifier name location => [("name", name), ("location", location)]
  | .integerConstant digits location => [("text", digits), ("location", location)]
  | .constantExpression constant location => [("constant", constant), ("location", location)]
  | .returnStatement expression location => [("expression", expression), ("location", location)]
  | .function name body returnType parameters location =>
      [("name", name), ("body", body), ("return_type", returnType), ("parameters", parameters),
       ("location", location)]
  | .program definition location => [("function", definition), ("location", location)]
  | .immediate value => [("value", value)]
  | .register name => [("name", name)]
  | .mov source destination => [("source", source), ("destination", destination)]
  | .machineFunction name instructions => [("name", name), ("instructions", instructions)]
  | .machineProgram definition => [("function", definition)]
  | .foreign _ fields _ => fields
  | _ => []

/-- The value of a field. -/
def field? (tree : Tree) (name : String) : Option Tree :=
  tree.fields.lookup name

/-- Whether a tree is a node, that is, a value with named fields. -/
def isNode : Tree → Bool
  | .nothing | .truth _ | .number _ | .text _ | .tuple _ | .plain .. => false
  | _ => true

/-- Whether a tree is an empty value: the absent value, an untrue one, zero, or a text or a sequence
    without items. -/
def isEmpty : Tree → Bool
  | .nothing | .tuple [] => true
  | .truth value => !value
  | .number value => value == 0
  | .text value => value.isEmpty
  | _ => false

/-- The location that a node carries, whatever value that is. -/
def location? (tree : Tree) : Option Tree :=
  (tree.field? "location").filter (!·.isEmpty)

/-- The nodes that a field holds: itself, unless it is a location, or the nodes among its items. -/
def nodesIn : Tree → List Tree
  | .tuple items => items.filter isNode
  | .place .. => []
  | value => if value.isNode then [value] else []

/-- The nodes directly below a tree, in the order of its fields. -/
def children (tree : Tree) : List Tree :=
  tree.fields.flatMap fun (_, value) => value.nodesIn

mutual

/-- How many values a tree is made of. A text counts as one value, whatever its length. -/
def size : Tree → Nat
  | .nothing | .truth _ | .number _ | .text _ | .plain .. | .ret => 1
  | .tuple items => 1 + sizeAll items
  | .place file line column => 1 + size file + size line + size column
  | .identifier name location => 1 + size name + size location
  | .integerConstant digits location => 1 + size digits + size location
  | .constantExpression constant location => 1 + size constant + size location
  | .returnStatement expression location => 1 + size expression + size location
  | .function name body returnType parameters location =>
      1 + size name + size body + size returnType + size parameters + size location
  | .program definition location => 1 + size definition + size location
  | .immediate value => 1 + size value
  | .register name => 1 + size name
  | .mov source destination => 1 + size source + size destination
  | .machineFunction name instructions => 1 + size name + size instructions
  | .machineProgram definition => 1 + size definition
  | .foreign _ fields _ => 1 + sizeFields fields

/-- How many values a sequence of trees is made of. -/
def sizeAll : List Tree → Nat
  | [] => 0
  | tree :: trees => size tree + sizeAll trees

/-- How many values a sequence of fields is made of. -/
def sizeFields : List (String × Tree) → Nat
  | [] => 0
  | (_, tree) :: fields => size tree + sizeFields fields

end

theorem size_le_of_mem {tree : Tree} {trees : List Tree} (h : tree ∈ trees) :
    tree.size ≤ sizeAll trees := by
  induction trees with
  | nil => cases h
  | cons first rest ih =>
      simp only [sizeAll]
      rcases List.mem_cons.1 h with rfl | h
      · omega
      · have := ih h
        omega

theorem size_le_of_mem_pairs {name : String} {value : Tree} {fields : List (String × Tree)}
    (h : (name, value) ∈ fields) : value.size ≤ sizeFields fields := by
  induction fields with
  | nil => cases h
  | cons first rest ih =>
      obtain ⟨other, tree⟩ := first
      simp only [sizeFields]
      rcases List.mem_cons.1 h with h | h
      · cases h
        omega
      · have := ih h
        omega

theorem size_lt_of_mem_fields {tree value : Tree} {name : String}
    (h : (name, value) ∈ tree.fields) : value.size < tree.size := by
  cases tree with
  | foreign kind fields number =>
      have : value.size ≤ sizeFields fields := size_le_of_mem_pairs h
      simp only [size]
      omega
  | nothing | truth | number | text | tuple | plain | ret => cases h
  | _ =>
      simp only [fields, List.mem_cons, Prod.mk.injEq, List.not_mem_nil, or_false] at h
      simp only [size]
      grind

theorem eq_or_mem_of_mem_nodesIn {value child : Tree} (h : child ∈ value.nodesIn) :
    child = value ∨ ∃ items, value = .tuple items ∧ child ∈ items := by
  unfold nodesIn at h
  split at h
  next items => exact .inr ⟨items, rfl, (List.mem_filter.1 h).1⟩
  next => cases h
  next =>
    split at h
    · exact .inl (List.mem_singleton.1 h)
    · cases h

theorem size_le_of_mem_nodesIn {value child : Tree} (h : child ∈ value.nodesIn) :
    child.size ≤ value.size := by
  rcases eq_or_mem_of_mem_nodesIn h with rfl | ⟨items, rfl, member⟩
  · exact Nat.le_refl _
  · have := size_le_of_mem member
    simp only [size]
    omega

theorem size_lt_of_mem_children {tree child : Tree} (h : child ∈ tree.children) :
    child.size < tree.size := by
  obtain ⟨⟨name, value⟩, member, inside⟩ := List.mem_flatMap.1 h
  exact Nat.lt_of_le_of_lt (size_le_of_mem_nodesIn inside) (size_lt_of_mem_fields member)

theorem mem_fields_of_field? {tree value : Tree} {name : String}
    (h : tree.field? name = some value) : (name, value) ∈ tree.fields := by
  unfold field? at h
  generalize tree.fields = fields at h ⊢
  induction fields with
  | nil => simp at h
  | cons entry rest ih =>
      obtain ⟨other, first⟩ := entry
      by_cases same : name = other
      · subst same
        simp_all
      · have : (name == other) = false := by simpa using same
        rw [List.lookup_cons, this] at h
        exact List.mem_cons_of_mem _ (ih h)

theorem size_lt_of_field? {tree value : Tree} {name : String} (h : tree.field? name = some value) :
    value.size < tree.size :=
  size_lt_of_mem_fields (mem_fields_of_field? h)

end Tree

end MicroC
