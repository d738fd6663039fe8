import MicroC.Tree

/-! # Walking trees

A walk goes depth first through the nodes of a tree and writes down their kinds. It does not go below
the nodes of a handled kind, and marks these.
-/

namespace MicroC.Tree

/-- The kinds that a walk meets, in order. -/
def walk (handled : List String) (tree : Tree) : List String :=
  if tree.kind ∈ handled then ["!" ++ tree.kind]
  else tree.kind :: tree.children.attach.flatMap fun ⟨child, _h⟩ => child.walk handled
termination_by tree.size
decreasing_by exact size_lt_of_mem_children _h

/-- A walk meets the root, then what it meets below each child, unless the root is handled. -/
theorem walk_eq (handled : List String) (tree : Tree) :
    tree.walk handled =
      if tree.kind ∈ handled then ["!" ++ tree.kind]
      else tree.kind :: tree.children.flatMap (walk handled) := by
  rw [walk]
  simp only [List.flatMap_subtype, List.unattach_attach]

end MicroC.Tree
