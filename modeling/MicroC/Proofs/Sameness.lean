import Mathlib.Data.List.Forall2
import MicroC.Tree.Same

/-! # Sameness as an equivalence

What sameness comes to is said once, level by level: two trees match if they are of one kind and
what they hold in the same places is the same, where the location of a source node is not looked at.
From this it is an equivalence on all trees.
-/

namespace MicroC.Tree

/-! ## Parts -/

/-- A value is a part of a tree: the tree itself, or a part of what a field holds, or of an item. -/
inductive Within : Tree → Tree → Prop where
  | here {tree : Tree} : Within tree tree
  | field {part value tree : Tree} {name : String} (held : (name, value) ∈ tree.fields)
      (inner : Within part value) : Within part tree
  | item {part item : Tree} {items : List Tree} (member : item ∈ items)
      (inner : Within part item) : Within part (.tuple items)

/-! ## One level of sameness -/

/-- Two fields have one name and hold what is related. -/
def Labelled (related : Tree → Tree → Prop) (one two : String × Tree) : Prop :=
  one.1 = two.1 ∧ related one.2 two.2

/-- Two trees match: they are of one kind, and what they hold in the same places is related. -/
inductive Matches (related : Tree → Tree → Prop) : Tree → Tree → Prop where
  | nothing : Matches related .nothing .nothing
  | truth {value : Bool} : Matches related (.truth value) (.truth value)
  | truthNumber {value : Bool} {number : Int} (counts : numberOf value = number) :
      Matches related (.truth value) (.number number)
  | numberTruth {value : Bool} {number : Int} (counts : numberOf value = number) :
      Matches related (.number number) (.truth value)
  | number {value : Int} : Matches related (.number value) (.number value)
  | text {value : String} : Matches related (.text value) (.text value)
  | tuple {items others : List Tree} (each : List.Forall₂ related items others) :
      Matches related (.tuple items) (.tuple others)
  | place {file line column file' line' column' : Tree} (files : related file file')
      (lines : related line line') (columns : related column column') :
      Matches related (.place file line column) (.place file' line' column')
  | plain {kind : String} {number : Nat} : Matches related (.plain kind number) (.plain kind number)
  | identifier {name name' location location' : Tree} (names : related name name') :
      Matches related (.identifier name location) (.identifier name' location')
  | integerConstant {digits digits' location location' : Tree} (texts : related digits digits') :
      Matches related (.integerConstant digits location) (.integerConstant digits' location')
  | constantExpression {constant constant' location location' : Tree}
      (constants : related constant constant') :
      Matches related (.constantExpression constant location)
        (.constantExpression constant' location')
  | returnStatement {expression expression' location location' : Tree}
      (expressions : related expression expression') :
      Matches related (.returnStatement expression location)
        (.returnStatement expression' location')
  | function {name body type parameters name' body' type' parameters' location location' : Tree}
      (names : related name name') (bodies : related body body') (types : related type type')
      (lists : related parameters parameters') :
      Matches related (.function name body type parameters location)
        (.function name' body' type' parameters' location')
  | program {definition definition' location location' : Tree}
      (definitions : related definition definition') :
      Matches related (.program definition location) (.program definition' location')
  | immediate {value value' : Tree} (values : related value value') :
      Matches related (.immediate value) (.immediate value')
  | register {name name' : Tree} (names : related name name') :
      Matches related (.register name) (.register name')
  | mov {source destination source' destination' : Tree} (sources : related source source')
      (destinations : related destination destination') :
      Matches related (.mov source destination) (.mov source' destination')
  | ret : Matches related .ret .ret
  | machineFunction {name body name' body' : Tree} (names : related name name')
      (bodies : related body body') :
      Matches related (.machineFunction name body) (.machineFunction name' body')
  | machineProgram {definition definition' : Tree} (definitions : related definition definition') :
      Matches related (.machineProgram definition) (.machineProgram definition')
  | foreign {kind : String} {number : Nat} {fields others : List (String × Tree)}
      (each : List.Forall₂ (Labelled related) fields others) :
      Matches related (.foreign kind fields number) (.foreign kind others number)

theorem sameAll_iff {items others : List Tree} :
    sameAll items others ↔ List.Forall₂ (fun a b => same a b) items others := by
  induction items generalizing others with
  | nil => cases others <;> simp [sameAll]
  | cons first rest ih => cases others <;> simp [sameAll, ih]

theorem sameFields_iff {fields others : List (String × Tree)} :
    sameFields fields others ↔ List.Forall₂ (Labelled fun a b => same a b) fields others := by
  induction fields generalizing others with
  | nil => cases others <;> simp [sameFields]
  | cons first rest ih => cases others <;> simp [sameFields, ih, Labelled]

theorem matches_of_same {a b : Tree} (equal : same a b) : Matches (fun a b => same a b) a b := by
  revert equal
  fun_cases same a b <;> intro equal
  case case1 => exact .nothing
  case case2 =>
    obtain rfl := eq_of_beq equal
    exact .truth
  case case3 => exact .truthNumber (eq_of_beq equal)
  case case4 => exact .numberTruth (eq_of_beq equal).symm
  case case5 =>
    obtain rfl := eq_of_beq equal
    exact .number
  case case6 =>
    obtain rfl := eq_of_beq equal
    exact .text
  case case7 => exact .tuple (sameAll_iff.1 equal)
  case case8 =>
    rw [Bool.and_eq_true, Bool.and_eq_true] at equal
    exact .place equal.1.1 equal.1.2 equal.2
  case case9 =>
    rw [Bool.and_eq_true] at equal
    obtain rfl := eq_of_beq equal.1
    obtain rfl := eq_of_beq equal.2
    exact .plain
  case case10 => exact .identifier equal
  case case11 => exact .integerConstant equal
  case case12 => exact .constantExpression equal
  case case13 => exact .returnStatement equal
  case case14 =>
    rw [Bool.and_eq_true, Bool.and_eq_true, Bool.and_eq_true] at equal
    exact .function equal.1.1.1 equal.1.1.2 equal.1.2 equal.2
  case case15 => exact .program equal
  case case16 => exact .immediate equal
  case case17 => exact .register equal
  case case18 =>
    rw [Bool.and_eq_true] at equal
    exact .mov equal.1 equal.2
  case case19 => exact .ret
  case case20 =>
    rw [Bool.and_eq_true] at equal
    exact .machineFunction equal.1 equal.2
  case case21 => exact .machineProgram equal
  case case22 =>
    rw [Bool.and_eq_true, Bool.and_eq_true] at equal
    obtain rfl := eq_of_beq equal.1.1
    obtain rfl := eq_of_beq equal.1.2
    exact .foreign (sameFields_iff.1 equal.2)
  case case23 => cases equal

theorem same_of_matches {a b : Tree} (alike : Matches (fun a b => same a b) a b) : same a b := by
  cases alike <;> simp [same, sameAll_iff, sameFields_iff, *]

namespace Matches

variable {related other : Tree → Tree → Prop} {a b c : Tree}

/-- What is related below may be replaced by what it implies; the trees below are smaller. -/
theorem imp (alike : Matches related a b)
    (implied : ∀ x y, x.size < a.size → related x y → other x y) : Matches other a b := by
  cases alike with
  | nothing | truth | number | text | plain | ret => constructor
  | truthNumber counts => exact .truthNumber counts
  | numberTruth counts => exact .numberTruth counts
  | @tuple items others each =>
      have below : ∀ item ∈ items, ∀ y, related item y → other item y := by
        intro item member y
        have := size_le_of_mem member
        apply implied
        simp only [size]
        omega
      have both := (List.forall₂_and_left _ _).2 ⟨below, each⟩
      exact .tuple (both.imp fun item y both => both.1 y both.2)
  | @foreign kind number fields others each =>
      have below : ∀ field ∈ fields, ∀ y, related field.2 y → other field.2 y := by
        rintro ⟨name, value⟩ held y
        exact implied _ _ (@size_lt_of_mem_fields (.foreign kind fields number) _ name held)
      have both := (List.forall₂_and_left _ _).2 ⟨below, each⟩
      exact .foreign (both.imp fun field y both => ⟨both.2.1, both.1 y.2 both.2.2⟩)
  | _ =>
      constructor
      all_goals
        refine implied _ _ ?_ (by assumption)
        simp only [size]
        omega

theorem flip (alike : Matches related a b) : Matches (fun x y => related y x) b a := by
  cases alike with
  | truthNumber counts => exact .numberTruth counts
  | numberTruth counts => exact .truthNumber counts
  | tuple each => exact .tuple each.flip
  | foreign each => exact .foreign (each.flip.imp fun _ _ alike => ⟨alike.1.symm, alike.2⟩)
  | _ => constructor <;> assumption

theorem numberOf_inj {first second : Bool} (equal : numberOf first = numberOf second) :
    first = second := by
  revert equal
  cases first <;> cases second <;> decide

theorem forall₂_between {α : Type} {one two : α → α → Prop} {first second third : List α}
    (left : List.Forall₂ one first second) (right : List.Forall₂ two second third) :
    List.Forall₂ (fun x z => ∃ y, one x y ∧ two y z) first third := by
  induction left generalizing third with
  | nil =>
      cases right
      exact .nil
  | cons here _ ih =>
      cases right with
      | cons there later => exact .cons ⟨_, here, there⟩ (ih later)

theorem comp (one : Matches related a b) (two : Matches other b c) :
    Matches (fun x z => ∃ y, related x y ∧ other y z) a c := by
  cases one with
  | truth =>
      cases two with
      | truth => exact .truth
      | truthNumber counts => exact .truthNumber counts
  | truthNumber counts =>
      cases two with
      | number => exact .truthNumber counts
      | numberTruth counts' =>
          obtain rfl := numberOf_inj (counts.trans counts'.symm)
          exact .truth
  | numberTruth counts =>
      cases two with
      | truth => exact .numberTruth counts
      | truthNumber counts' =>
          obtain rfl := counts.symm.trans counts'
          exact .number
  | number =>
      cases two with
      | number => exact .number
      | numberTruth counts => exact .numberTruth counts
  | tuple each =>
      cases two with
      | tuple each' => exact .tuple (forall₂_between each each')
  | foreign each =>
      cases two with
      | foreign each' =>
          refine .foreign ((forall₂_between each each').imp ?_)
          rintro x z ⟨y, first, second⟩
          exact ⟨first.1.trans second.1, y.2, first.2, second.2⟩
  | _ =>
      cases two
      constructor
      all_goals exact ⟨_, by assumption, by assumption⟩

theorem refl (fields : ∀ field ∈ a.fields, related field.2 field.2)
    (items : ∀ items, a = .tuple items → ∀ item ∈ items, related item item) : Matches related a a := by
  cases a with
  | foreign kind contents number =>
      exact .foreign (List.forall₂_same.2 fun field held => ⟨rfl, fields field held⟩)
  | tuple contents => exact .tuple (List.forall₂_same.2 (items contents rfl))
  | _ =>
      simp only [Tree.fields, List.forall_mem_cons] at fields
      constructor <;> simp only [fields]

end Matches

/-! ## An equivalence -/

/-- What follows from a match of related trees holds of all trees that are the same. -/
theorem same_induction {motive : Tree → Tree → Prop}
    (step : ∀ a b, Matches motive a b → motive a b) {a b : Tree} (equal : same a b) :
    motive a b := by
  apply step
  exact (matches_of_same equal).imp fun x y smaller inner => same_induction step inner
termination_by a.size

theorem same_symm {a b : Tree} (equal : same a b) : same b a :=
  same_induction (motive := fun a b => same b a) (fun _ _ alike => same_of_matches alike.flip) equal

theorem same_trans {a b c : Tree} (first : same a b) (second : same b c) : same a c := by
  have all : ∀ c, same b c → same a c := by
    refine same_induction (motive := fun a b => ∀ c, same b c → same a c) ?_ first
    intro a b alike c later
    apply same_of_matches
    refine (alike.comp (matches_of_same later)).imp fun x z _ between => ?_
    obtain ⟨y, inner, equal⟩ := between
    exact inner z equal
  exact all c second

theorem same_refl (tree : Tree) : same tree tree := by
  apply same_of_matches
  refine .refl ?_ ?_
  · rintro ⟨name, value⟩ held
    exact same_refl value
  · rintro items rfl item member
    exact same_refl item
termination_by tree.size
decreasing_by
  · exact size_lt_of_mem_fields held
  · have := size_le_of_mem member
    subst_vars
    simp only [size]
    omega

theorem equivalence_same : Equivalence fun a b : Tree => (same a b : Prop) where
  refl := same_refl
  symm := same_symm
  trans := same_trans

end MicroC.Tree
