import MicroC.Failure

/-! # Fields of trees

Access to the fields that a node of a known kind should have. A tree that only carries the name of
the kind may lack them, which is an internal fault.

Main statements: `size_lt_of_need` and `size_lt_of_needItems`, what a field holds is smaller than the
tree.
-/

namespace MicroC.Tree

/-- The value of a field that a tree should have. -/
def need (tree : Tree) (name : String) : Except Failure Tree :=
  match tree.field? name with
  | some value => .ok value
  | none => .error (.internal (.noField tree.kind name))

/-- A tree as it stands in a sentence. -/
def sentence (tree : Tree) : Except Failure String :=
  tree.display.mapError Failure.unwritten

/-- The value of a field, as it stands in a sentence. -/
def needText (tree : Tree) (name : String) : Except Failure String := do
  (← tree.need name).sentence

/-- The items of a sequence. The items of a text are its characters. -/
def items : Tree → Except Failure (List Tree)
  | .tuple items => .ok items
  | .text value => .ok (value.toList.map fun char => .text char.toString)
  | tree => .error (.internal (.noSequence tree.kind))

/-- The items of a field. -/
def needItems (tree : Tree) (name : String) : Except Failure (List Tree) := do
  (← tree.need name).items

theorem field?_of_need {tree value : Tree} {name : String} (h : tree.need name = .ok value) :
    tree.field? name = some value := by
  unfold need at h
  split at h
  next found =>
    cases h
    exact found
  next => cases h

theorem size_lt_of_need {tree value : Tree} {name : String} (h : tree.need name = .ok value) :
    value.size < tree.size :=
  size_lt_of_field? (field?_of_need h)

theorem size_le_of_mem_items {tree item : Tree} {found : List Tree} (h : tree.items = .ok found)
    (member : item ∈ found) : item.size ≤ tree.size := by
  unfold items at h
  split at h
  next contents =>
    cases h
    have := size_le_of_mem member
    simp only [size]
    omega
  next value =>
    cases h
    obtain ⟨char, -, rfl⟩ := List.mem_map.1 member
    simp only [size]
    omega
  next => cases h

theorem size_lt_of_needItems {tree item : Tree} {name : String} {found : List Tree}
    (h : tree.needItems name = .ok found) (member : item ∈ found) : item.size < tree.size := by
  unfold needItems at h
  cases needed : tree.need name with
  | error failure => simp [needed, bind, Except.bind] at h
  | ok value =>
      simp only [needed, bind, Except.bind] at h
      exact Nat.lt_of_le_of_lt (size_le_of_mem_items h member) (size_lt_of_need needed)

end MicroC.Tree
