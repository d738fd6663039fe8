import Mathlib.Data.List.Lex
import Mathlib.Data.List.Sort
import MicroC.Tree.Walk

/-! # Occurrences along a walk

The same node may stand at several places of a tree, so what a walk meets are occurrences: a node
together with the steps that lead to it. A step goes to what a field holds, or to an item of a
sequence that a field holds, and it always ends at a node; hence a sequence inside a sequence is not
looked into. A walk goes on from every node that is not handled.

Main statements: `mem_occurrences_iff` and `pairwise_occurrences`, which occurrences a walk meets
and in which order, and `walk_lists_occurrences`.
-/

namespace MicroC.Tree

/-! ## Steps -/

/-- A value that is no node. -/
inductive MereValue : Tree → Prop where
  | nothing : MereValue .nothing
  | truth (value : Bool) : MereValue (.truth value)
  | number (value : Int) : MereValue (.number value)
  | text (value : String) : MereValue (.text value)
  | tuple (items : List Tree) : MereValue (.tuple items)
  | plain (kind : String) (number : Nat) : MereValue (.plain kind number)

/-- A step down from a node: the number of a field and, where that holds a sequence, the number of
    an item. -/
structure Step where
  field : Nat
  item : Option Nat
  deriving Repr, DecidableEq

/-- The order of the steps from one node: by the field, and in a sequence by the item. -/
inductive Step.Before : Step → Step → Prop where
  | field {one two : Step} (less : one.field < two.field) : Before one two
  | item {field first second : Nat} (less : first < second) :
      Before ⟨field, some first⟩ ⟨field, some second⟩

/-- A step leads from a tree to a node below it. -/
inductive Leads (tree : Tree) : Step → Tree → Prop where
  /-- To the node that a field holds, unless that is a location. -/
  | field {index : Nat} {name : String} {value : Tree}
      (held : tree.fields[index]? = some (name, value)) (node : ¬ value.MereValue)
      (other : ∀ file line column, value ≠ .place file line column) : Leads tree ⟨index, none⟩ value
  /-- To a node among the items that a field holds, be it a location. -/
  | item {index position : Nat} {name : String} {items : List Tree} {item : Tree}
      (held : tree.fields[index]? = some (name, .tuple items))
      (listed : items[position]? = some item) (node : ¬ item.MereValue) :
      Leads tree ⟨index, some position⟩ item

/-- The steps lead from a tree to a node, and no node that they leave is handled. -/
inductive Reached (handled : List String) : Tree → List Step → Tree → Prop where
  | here {tree : Tree} : Reached handled tree [] tree
  | step {tree child node : Tree} {step : Step} {address : List Step}
      (unhandled : tree.kind ∉ handled) (leads : tree.Leads step child)
      (rest : Reached handled child address node) : Reached handled tree (step :: address) node

instance : Std.Asymm Step.Before where
  asymm one two before after := by
    cases before with
    | field less =>
        cases after with
        | field more => omega
        | item _ => exact Nat.lt_irrefl _ less
    | item less =>
        cases after with
        | field more => exact Nat.lt_irrefl _ more
        | item more => omega

theorem isNode_iff {tree : Tree} : tree.isNode = true ↔ ¬ tree.MereValue := by
  cases tree with
  | nothing | truth | number | text | tuple | plain =>
      exact iff_of_false (by simp [isNode]) (fun node => node (by constructor))
  | _ => exact iff_of_true rfl (fun mere => by cases mere)

/-- A step leads to one node. -/
theorem Leads.unique {tree child other : Tree} {step : Step} (leads : tree.Leads step child)
    (again : tree.Leads step other) : child = other := by
  cases leads with
  | field held =>
      cases again with
      | field held' =>
          have same := Option.some.inj (held.symm.trans held')
          exact congrArg Prod.snd same
  | item held listed =>
      cases again with
      | item held' listed' =>
          have same := Option.some.inj (held.symm.trans held')
          cases same
          exact Option.some.inj (listed.symm.trans listed')

/-! ## The steps in order -/

/-- The steps to the nodes that a field holds. -/
def stepsIn (field : Nat) : Tree → List (Step × Tree)
  | .tuple items =>
      (items.zipIdx.filter fun item => item.1.isNode).map fun item => (⟨field, some item.2⟩, item.1)
  | value => value.nodesIn.map fun node => (⟨field, none⟩, node)

/-- The steps from a tree, each with the node that it leads to. -/
def steps (tree : Tree) : List (Step × Tree) :=
  tree.fields.zipIdx.flatMap fun entry => entry.1.2.stepsIn entry.2

theorem map_snd_stepsIn (field : Nat) (value : Tree) :
    (value.stepsIn field).map Prod.snd = value.nodesIn := by
  cases value with
  | tuple items =>
      have filtered := List.filter_map (f := Prod.fst) (p := isNode) (l := items.zipIdx)
      rw [List.zipIdx_map_fst] at filtered
      simp only [stepsIn, nodesIn, List.map_map, filtered]
      rfl
  | _ => simp only [stepsIn, List.map_map, Function.comp_def, List.map_id']

theorem map_snd_steps (tree : Tree) : tree.steps.map Prod.snd = tree.children := by
  have numbered := List.flatMap_map Prod.fst (fun entry => entry.2.nodesIn) tree.fields.zipIdx
  rw [List.zipIdx_map_fst] at numbered
  rw [steps, List.map_flatMap]
  simp only [map_snd_stepsIn]
  exact numbered.symm

theorem mem_stepsIn_tuple {field : Nat} {items : List Tree} {child : Tree} {step : Step} :
    (step, child) ∈ (tuple items).stepsIn field ↔
      ∃ position, step = ⟨field, some position⟩ ∧ items[position]? = some child ∧
        ¬ child.MereValue := by
  simp only [stepsIn, List.mem_map, List.mem_filter, List.mem_zipIdx_iff_getElem?, isNode_iff]
  constructor
  · rintro ⟨⟨item, position⟩, ⟨listed, node⟩, same⟩
    cases same
    exact ⟨position, rfl, listed, node⟩
  · rintro ⟨position, rfl, listed, node⟩
    exact ⟨(child, position), ⟨listed, node⟩, rfl⟩

theorem mem_stepsIn_single {field : Nat} {value child : Tree} {step : Step}
    (single : ∀ items, value ≠ .tuple items) :
    (step, child) ∈ value.stepsIn field ↔
      step = ⟨field, none⟩ ∧ child = value ∧ ¬ value.MereValue ∧
        ∀ file line column, value ≠ .place file line column := by
  rw [← isNode_iff]
  cases value with
  | tuple items => exact absurd rfl (single items)
  | _ => simp [stepsIn, nodesIn, isNode, and_comm]

theorem mem_steps_iff {tree child : Tree} {step : Step} :
    (step, child) ∈ tree.steps ↔ tree.Leads step child := by
  simp only [steps, List.mem_flatMap, List.mem_zipIdx_iff_getElem?]
  constructor
  · rintro ⟨⟨⟨name, value⟩, index⟩, held, member⟩
    by_cases single : ∀ items, value ≠ .tuple items
    · obtain ⟨rfl, rfl, node, other⟩ := (mem_stepsIn_single single).1 member
      exact .field held node other
    · obtain ⟨items, rfl⟩ : ∃ items, value = .tuple items := by simpa using single
      obtain ⟨position, rfl, listed, node⟩ := mem_stepsIn_tuple.1 member
      exact .item held listed node
  · intro leads
    cases leads with
    | @field index name value held node other =>
        have single : ∀ items, child ≠ .tuple items := by
          rintro items rfl
          exact node (.tuple items)
        exact ⟨((name, child), index), held, (mem_stepsIn_single single).2 ⟨rfl, rfl, node, other⟩⟩
    | @item index position name items item held listed node =>
        exact ⟨((name, .tuple items), index), held,
          mem_stepsIn_tuple.2 ⟨position, rfl, listed, node⟩⟩

theorem pairwise_zipIdx (values : List α) :
    values.zipIdx.Pairwise fun one two => one.2 < two.2 := by
  rw [← List.pairwise_map (f := Prod.snd) (R := (· < ·)), List.zipIdx_map_snd]
  exact List.pairwise_lt_range'

theorem pairwise_stepsIn (field : Nat) (value : Tree) :
    (value.stepsIn field).Pairwise fun one two => one.1.Before two.1 := by
  cases value with
  | tuple items =>
      rw [stepsIn, List.pairwise_map]
      exact ((pairwise_zipIdx items).filter _).imp Step.Before.item
  | _ => simp [stepsIn, nodesIn, isNode]

theorem field_of_mem_stepsIn {field : Nat} {value : Tree} {entry : Step × Tree}
    (member : entry ∈ value.stepsIn field) : entry.1.field = field := by
  cases value with
  | tuple items =>
      obtain ⟨position, same, -⟩ := mem_stepsIn_tuple.1 member
      rw [same]
  | _ =>
      obtain ⟨same, -⟩ := (mem_stepsIn_single (by simp)).1 member
      rw [same]

theorem pairwise_steps (tree : Tree) :
    tree.steps.Pairwise fun one two => one.1.Before two.1 := by
  rw [steps, List.pairwise_flatMap]
  refine ⟨fun entry _ => pairwise_stepsIn entry.2 entry.1.2, ?_⟩
  apply (pairwise_zipIdx tree.fields).imp
  intro first second less one here two there
  apply Step.Before.field
  rwa [field_of_mem_stepsIn here, field_of_mem_stepsIn there]

theorem Leads.size_lt {tree child : Tree} {step : Step} (leads : tree.Leads step child) :
    child.size < tree.size := by
  apply size_lt_of_mem_children
  rw [← map_snd_steps]
  exact List.mem_map_of_mem (mem_steps_iff.2 leads)

/-- What holds of a tree whenever it holds of all that one step leads to holds of all trees. -/
theorem leads_induction {motive : Tree → Prop}
    (step : ∀ tree, (∀ step child, Leads tree step child → motive child) → motive tree)
    (tree : Tree) : motive tree :=
  step tree fun _ child leads =>
    have := leads.size_lt
    leads_induction step child
termination_by tree.size

/-! ## What a walk meets -/

/-- A node at a place of a tree. -/
structure Occurrence where
  /-- The steps to the node, from the root on. -/
  address : List Step
  /-- The node. -/
  node : Tree

/-- The occurrence as seen from one step further up. -/
def Occurrence.under (step : Step) (occurrence : Occurrence) : Occurrence :=
  { occurrence with address := step :: occurrence.address }

/-- What a walk writes down for an occurrence: its kind, with a mark if that is handled. -/
def Occurrence.entry (handled : List String) (occurrence : Occurrence) : String :=
  if occurrence.node.kind ∈ handled then "!" ++ occurrence.node.kind else occurrence.node.kind

/-- The occurrences that a walk meets. -/
def occurrences (handled : List String) (tree : Tree) : List Occurrence :=
  ⟨[], tree⟩ :: if tree.kind ∈ handled then [] else
    tree.steps.attach.flatMap fun entry =>
      (occurrences handled entry.1.2).map (Occurrence.under entry.1.1)
termination_by tree.size
decreasing_by exact (mem_steps_iff.1 entry.2).size_lt

theorem occurrences_eq (handled : List String) (tree : Tree) :
    tree.occurrences handled = ⟨[], tree⟩ :: if tree.kind ∈ handled then [] else
      tree.steps.flatMap fun entry =>
        (entry.2.occurrences handled).map (Occurrence.under entry.1) := by
  rw [occurrences]
  simp only [List.flatMap_subtype, List.unattach_attach]

theorem walk_eq_map_entry (handled : List String) (tree : Tree) :
    tree.walk handled = (tree.occurrences handled).map (Occurrence.entry handled) := by
  induction tree using leads_induction with
  | step tree ih =>
      rw [walk_eq, occurrences_eq]
      by_cases stop : tree.kind ∈ handled
      · simp [stop, Occurrence.entry]
      · have lower : tree.children.flatMap (walk handled) = tree.steps.flatMap fun entry =>
            (entry.2.occurrences handled).map (Occurrence.entry handled) := by
          rw [← map_snd_steps, List.flatMap_map]
          apply List.flatMap_congr
          intro entry member
          exact ih entry.1 entry.2 (mem_steps_iff.1 member)
        simp only [stop, lower, List.map_cons, List.map_flatMap, List.map_map, if_false,
          Occurrence.entry]
        rfl

theorem Reached.mem_occurrences {handled : List String} {tree node : Tree} {address : List Step}
    (reached : Reached handled tree address node) : ⟨address, node⟩ ∈ tree.occurrences handled := by
  induction reached with
  | here =>
      rw [occurrences_eq]
      exact List.mem_cons_self
  | @step tree child node step address unhandled leads _ ih =>
      rw [occurrences_eq, if_neg unhandled]
      apply List.mem_cons_of_mem
      exact List.mem_flatMap.2 ⟨(step, child), mem_steps_iff.2 leads, List.mem_map_of_mem ih⟩

theorem mem_occurrences_iff {handled : List String} {tree : Tree} {occurrence : Occurrence} :
    occurrence ∈ tree.occurrences handled ↔
      Reached handled tree occurrence.address occurrence.node := by
  refine ⟨?_, Reached.mem_occurrences⟩
  induction tree using leads_induction generalizing occurrence with
  | step tree ih =>
      rw [occurrences_eq, List.mem_cons]
      rintro (rfl | lower)
      · exact .here
      · split at lower
        next => cases lower
        next unhandled =>
          obtain ⟨⟨step, child⟩, member, inside⟩ := List.mem_flatMap.1 lower
          obtain ⟨inner, met, rfl⟩ := List.mem_map.1 inside
          have leads := mem_steps_iff.1 member
          exact .step unhandled leads (ih step child leads met)

/-- Depth first, a node comes before all that stands below it, and what stands below one of its
    steps before what stands below a later one. -/
theorem pairwise_occurrences (handled : List String) (tree : Tree) :
    (tree.occurrences handled).Pairwise fun one two =>
      List.Lex Step.Before one.address two.address := by
  induction tree using leads_induction with
  | step tree ih =>
      rw [occurrences_eq]
      split
      next => exact List.pairwise_singleton _ _
      next =>
        rw [List.pairwise_cons, List.pairwise_flatMap]
        refine ⟨?_, ?_, ?_⟩
        · intro occurrence lower
          obtain ⟨entry, -, inside⟩ := List.mem_flatMap.1 lower
          obtain ⟨inner, -, rfl⟩ := List.mem_map.1 inside
          exact .nil
        · intro entry member
          rw [List.pairwise_map]
          exact (ih entry.1 entry.2 (mem_steps_iff.1 member)).imp .cons
        · apply tree.pairwise_steps.imp
          intro first second before one here two there
          obtain ⟨inner, -, rfl⟩ := List.mem_map.1 here
          obtain ⟨other, -, rfl⟩ := List.mem_map.1 there
          exact .rel before

/-! ## Handling more kinds -/

namespace Reached

variable {handled more : List String} {tree node : Tree} {address : List Step}

theorem mono (sub : handled ⊆ more) (reached : Reached more tree address node) :
    Reached handled tree address node := by
  induction reached with
  | here => exact .here
  | step unhandled leads _ ih => exact .step (fun member => unhandled (sub member)) leads ih

/-- No node above one that is reached is handled. -/
theorem unhandled_above {above : Tree} {front rest : List Step} {step : Step}
    (reached : Reached more tree (front ++ step :: rest) node)
    (passed : Reached handled tree front above) : above.kind ∉ more := by
  induction passed with
  | here =>
      cases reached with
      | step unhandled _ _ => exact unhandled
  | step _ leads _ ih =>
      cases reached with
      | step _ again lower =>
          obtain rfl := leads.unique again
          exact ih lower

theorem of_unhandled_above (reached : Reached handled tree address node)
    (unhandled : ∀ above front step rest, address = front ++ step :: rest →
      Reached handled tree front above → above.kind ∉ more) :
    Reached more tree address node := by
  induction reached with
  | here => exact .here
  | step kept leads _ ih =>
      refine .step (unhandled _ [] _ _ rfl .here) leads (ih ?_)
      rintro above front step rest rfl passed
      exact unhandled above _ step rest rfl (.step kept leads passed)

end Reached

instance : Std.Asymm fun one two : Occurrence => List.Lex Step.Before one.address two.address where
  asymm _ _ before after := Std.Asymm.asymm (r := List.Lex Step.Before) _ _ before after

theorem occurrences_sublist {handled more : List String} (sub : handled ⊆ more) (tree : Tree) :
    (tree.occurrences more).Sublist (tree.occurrences handled) := by
  have ordered := pairwise_occurrences more tree
  apply List.sublist_of_subperm_of_pairwise _ ordered (pairwise_occurrences handled tree)
  apply List.subperm_of_subset ordered.nodup
  intro occurrence member
  exact mem_occurrences_iff.2 ((mem_occurrences_iff.1 member).mono sub)

theorem not_mem_occurrences_iff {handled more : List String} {tree : Tree} {occurrence : Occurrence}
    (met : occurrence ∈ tree.occurrences handled) :
    occurrence ∉ tree.occurrences more ↔
      ∃ above ∈ tree.occurrences handled, above.node.kind ∈ more ∧ above.node.kind ∉ handled ∧
        ∃ step rest, occurrence.address = above.address ++ step :: rest := by
  rw [mem_occurrences_iff] at met ⊢
  constructor
  · intro lost
    by_contra unhandled
    refine lost (met.of_unhandled_above fun above front step rest split passed newly => unhandled ?_)
    have kept := (split ▸ met).unhandled_above passed
    exact ⟨⟨front, above⟩, mem_occurrences_iff.2 passed, newly, kept, step, rest, split⟩
  · rintro ⟨above, passed, newly, -, step, rest, split⟩ reached
    rw [split] at reached
    exact reached.unhandled_above (mem_occurrences_iff.1 passed) newly

/-- A walk writes one entry for each occurrence that it meets. These are the root and all that can
    be reached from it by steps to nodes that leave no handled node, each once and in the order of
    their addresses. With more kinds handled, exactly those below newly handled nodes are lost, and
    the others stay in their order. -/
theorem walk_lists_occurrences (handled : List String) (tree : Tree) :
    tree.walk handled = (tree.occurrences handled).map (Occurrence.entry handled) ∧
    (∀ occurrence, occurrence ∈ tree.occurrences handled ↔
      Reached handled tree occurrence.address occurrence.node) ∧
    ((tree.occurrences handled).map Occurrence.address).Nodup ∧
    (tree.occurrences handled).Pairwise (fun one two =>
      List.Lex Step.Before one.address two.address) ∧
    ∀ more, handled ⊆ more →
      (tree.occurrences more).Sublist (tree.occurrences handled) ∧
      ∀ occurrence ∈ tree.occurrences handled,
        occurrence ∉ tree.occurrences more ↔
          ∃ above ∈ tree.occurrences handled, above.node.kind ∈ more ∧ above.node.kind ∉ handled ∧
            ∃ step rest, occurrence.address = above.address ++ step :: rest := by
  have ordered := pairwise_occurrences handled tree
  refine ⟨walk_eq_map_entry handled tree, fun _ => mem_occurrences_iff, ?_, ordered, ?_⟩
  · exact (List.pairwise_map.2 ordered).nodup
  · intro more sub
    exact ⟨occurrences_sublist sub tree, fun _ => not_mem_occurrences_iff⟩

/-- A box holds a location, and a sequence of a sequence, a name and a location. The inner sequence
    and the location by itself are passed over, and a name in a handled box is not met. -/
theorem walk_lists_occurrences_box :
    let place : Tree := .place (.text "a.c") (.number 1) (.number 5)
    let name : Tree := .identifier (.text "main") place
    let kept : Tree := .tuple [.tuple [.ret], name, place]
    let box : Tree := .foreign "Box" [("start", place), ("kept", kept)]
    let tree : Tree := .program box place
    let met : Occurrence := ⟨[⟨0, none⟩, ⟨1, some 1⟩], name⟩
    tree.walk ["Identifier"] = ["ProgramNode", "Box", "!Identifier", "SourceLocation"] ∧
    tree.walk ["Identifier", "Box"] = ["ProgramNode", "!Box"] ∧
    met ∈ tree.occurrences ["Identifier"] ∧ met ∉ tree.occurrences ["Identifier", "Box"] := by
  intro place name kept box tree met
  obtain ⟨-, reaches, -, -, enlarged⟩ := walk_lists_occurrences ["Identifier"] tree
  have toBox : Leads tree ⟨0, none⟩ box := .field rfl (isNode_iff.1 rfl) (by simp [box])
  have toName : Leads box ⟨1, some 1⟩ name := .item rfl rfl (isNode_iff.1 rfl)
  have boxed : Reached ["Identifier"] tree [⟨0, none⟩] box := .step (by decide) toBox .here
  have named : Reached ["Identifier"] tree met.address met.node :=
    .step (by decide) toBox (.step (by decide) toName .here)
  have first : met ∈ tree.occurrences ["Identifier"] := (reaches met).2 named
  have lost := ((enlarged ["Identifier", "Box"] (by simp)).2 met first).2
    ⟨⟨[⟨0, none⟩], box⟩, (reaches _).2 boxed, by decide, by decide, ⟨1, some 1⟩, [], rfl⟩
  have below : tree.children = [box] := rfl
  have inside : box.children = [name, place] := rfl
  have nothing : place.children = [] := rfl
  refine ⟨?_, ?_, first, lost⟩
  · rw [walk_eq, if_neg (by decide), below, List.flatMap_singleton, walk_eq, if_neg (by decide),
      inside, List.flatMap_cons, List.flatMap_singleton, walk_eq, if_pos (by decide), walk_eq,
      if_neg (by decide), nothing]
    rfl
  · rw [walk_eq, if_neg (by decide), below, List.flatMap_singleton, walk_eq, if_pos (by decide)]
    rfl

end MicroC.Tree
