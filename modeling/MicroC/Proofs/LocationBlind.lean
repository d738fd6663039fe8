import MicroC.Proofs.Flattening
import MicroC.Proofs.Sameness
import MicroC.Proofs.Spine
import MicroC.Proofs.Unlocated

/-! # Locations make no difference

Trees that are the same but for the locations of their nodes are lowered alike and have the same
outline, and tokens that are the same but for theirs are read alike. Trees may have nodes of any kind
anywhere. What is shown as a name or moved as a value is shown in full, though: if another node stands
there, its location shows, so that texts and numbers are asked for in these places.

Main statements: `Tree.lower_same`, `Outline.visit_same` and `locations_make_no_difference`.
-/

namespace MicroC

namespace Tree

/-! ## Trees that show no location -/

/-- The tree is a text. -/
def IsText (tree : Tree) : Prop :=
  ∃ value, tree = .text value

/-- The tree is a number. -/
def IsNumber (tree : Tree) : Prop :=
  ∃ value, tree = .number value

/-- What is asked of every part of a tree: it is no truth value, which would be the same as a number; as
    a location it has a place that can be written, or none; and what it shows in a line or hands on to
    machine code is a text or a number. -/
structure Regular (tree : Tree) : Prop where
  notTruth : ∀ value, tree ≠ .truth value
  located : ∀ place, ("location", place) ∈ tree.fields →
    (place = .nothing ∨ ∃ file line column, place = .place file line column) ∧
      ∃ text, place.display = .ok text
  function : tree.kind = "FunctionNode" →
    (∀ type, tree.field? "return_type" = some type → IsText type) ∧
    (∀ parameters, tree.field? "parameters" = some parameters → IsText parameters) ∧
    ∀ name, tree.field? "name" = some name → ∀ value, name.field? "name" = some value → IsText value
  constant : tree.kind = "ConstantExpression" →
    ∀ constant, tree.field? "constant" = some constant →
      (∀ value, constant.field? "text" = some value → IsText value) ∧
      ∀ value, constant.field? "value" = some value → IsNumber value

/-- A tree all of whose parts are regular. -/
def Ordinary (tree : Tree) : Prop :=
  ∀ part, Within part tree → part.Regular

namespace Ordinary

variable {tree : Tree}

theorem regular (ordinary : tree.Ordinary) : tree.Regular :=
  ordinary tree .here

theorem field {name : String} {value : Tree} (ordinary : tree.Ordinary)
    (held : (name, value) ∈ tree.fields) : value.Ordinary :=
  fun part inner => ordinary part (.field held inner)

theorem child {child : Tree} (ordinary : tree.Ordinary) (member : child ∈ tree.children) :
    child.Ordinary := by
  obtain ⟨⟨name, value⟩, held, inside⟩ := List.mem_flatMap.1 member
  have below := ordinary.field held
  rcases eq_or_mem_of_mem_nodesIn inside with rfl | ⟨items, rfl, among⟩
  · exact below
  · exact fun part inner => below part (.item among inner)

theorem intro (regular : tree.Regular) (fields : ∀ field ∈ tree.fields, field.2.Ordinary)
    (items : ∀ items, tree = .tuple items → ∀ item ∈ items, item.Ordinary) : tree.Ordinary := by
  rintro part (_ | ⟨held, inner⟩ | ⟨member, inner⟩)
  · exact regular
  · exact fields _ held part inner
  · exact items _ rfl _ member part inner

theorem leaf (truth : ∀ value, tree ≠ .truth value) (tuple : ∀ items, tree ≠ .tuple items)
    (fields : tree.fields = []) : tree.Ordinary := by
  have empty : ∀ field, field ∉ tree.fields := by
    rw [fields]
    exact fun _ => List.not_mem_nil
  have fieldless {name : String} {value : Tree} (held : tree.field? name = some value) : False :=
    empty _ (mem_fields_of_field? held)
  refine intro ⟨truth, fun place held => absurd held (empty _), fun _ => ?_, fun _ => ?_⟩
    (fun field held => absurd held (empty field)) fun items same => absurd same (tuple items)
  · exact ⟨fun _ held => (fieldless held).elim, fun _ held => (fieldless held).elim,
      fun _ held => (fieldless held).elim⟩
  · exact fun _ held => (fieldless held).elim

end Ordinary

/-! ## What trees that are the same hold -/

section Same

variable {a b : Tree} (equal : same a b)
include equal

/-- The fields have the same names and, but for locations, hold the same. -/
theorem fields_same : List.Forall₂ (fun one two : String × Tree =>
    one.1 = two.1 ∧ (one.1 = "location" ∨ same one.2 two.2)) a.fields b.fields := by
  cases matches_of_same equal with
  | foreign each => exact each.imp fun _ _ alike => ⟨alike.1, .inr alike.2⟩
  | _ => simp [fields, *]

theorem field?_same {name : String} (other : name ≠ "location") :
    a.field? name = none ∧ b.field? name = none ∨
      ∃ one two, a.field? name = some one ∧ b.field? name = some two ∧ same one two := by
  unfold field?
  have both := fields_same equal
  generalize a.fields = ones at both
  generalize b.fields = twos at both
  induction both with
  | nil => exact .inl ⟨rfl, rfl⟩
  | @cons one two ones twos here _ ih =>
      obtain ⟨label, value⟩ := one
      obtain ⟨label', value'⟩ := two
      obtain ⟨rfl, inner⟩ := here
      rw [List.lookup_cons, List.lookup_cons]
      by_cases found : name = label
      · subst found
        rw [beq_self_eq_true]
        exact .inr ⟨value, value', rfl, rfl, inner.resolve_left other⟩
      · rw [beq_false_of_ne found]
        exact ih

theorem kind_same (regular : a.Regular) (regular' : b.Regular) : a.kind = b.kind := by
  cases matches_of_same equal with
  | truthNumber => exact absurd rfl (regular.notTruth _)
  | numberTruth => exact absurd rfl (regular'.notTruth _)
  | _ => rfl

theorem isNode_same : a.isNode = b.isNode := by
  cases matches_of_same equal <;> rfl

theorem eq_of_isText (text : a.IsText) : a = b := by
  obtain ⟨value, rfl⟩ := text
  cases matches_of_same equal
  rfl

theorem eq_of_isNumber (number : a.IsNumber) (regular : b.Regular) : a = b := by
  obtain ⟨value, rfl⟩ := number
  cases matches_of_same equal with
  | numberTruth => exact absurd rfl (regular.notTruth _)
  | number => rfl

theorem nodesIn_same : List.Forall₂ (fun x y => same x y) a.nodesIn b.nodesIn := by
  have alike := matches_of_same equal
  cases alike with
  | @tuple items others each =>
      change List.Forall₂ _ (items.filter isNode) (others.filter isNode)
      induction each with
      | nil => exact .nil
      | @cons item other _ _ here later ih =>
          have rest := ih (same_of_matches (.tuple later))
          rw [List.filter_cons, List.filter_cons, isNode_same here]
          split
          · exact .cons here rest
          · exact rest
  | nothing | truth | truthNumber | numberTruth | number | text | place | plain => exact .nil
  | _ => exact .cons equal .nil

theorem children_same (regular : a.Regular) (regular' : b.Regular) :
    List.Forall₂ (fun x y => same x y) a.children b.children := by
  have placeless {tree place : Tree} (regular : tree.Regular)
      (held : ("location", place) ∈ tree.fields) : place.nodesIn = [] := by
    obtain ⟨rfl | ⟨file, line, column, rfl⟩, -⟩ := regular.located place held <;> rfl
  have first (place : Tree) := @placeless a place regular
  have second (place : Tree) := @placeless b place regular'
  have both := fields_same equal
  unfold children
  generalize a.fields = ones at both first
  generalize b.fields = twos at both second
  induction both with
  | nil => exact .nil
  | @cons one two ones twos here _ ih =>
      obtain ⟨label, value⟩ := one
      obtain ⟨label', value'⟩ := two
      obtain ⟨rfl, inner⟩ := here
      have rest := ih (fun place held => first place (List.mem_cons_of_mem _ held))
        fun place held => second place (List.mem_cons_of_mem _ held)
      rw [List.flatMap_cons, List.flatMap_cons]
      refine List.rel_append ?_ rest
      rcases inner with rfl | inner
      · change List.Forall₂ _ value.nodesIn value'.nodesIn
        rw [first value List.mem_cons_self, second value' List.mem_cons_self]
        exact .nil
      · exact nodesIn_same inner

theorem need_same {name : String} (other : name ≠ "location") (regular : a.Regular)
    (regular' : b.Regular) :
    (∃ failure, a.need name = .error failure ∧ b.need name = .error failure) ∨
      ∃ one two, a.field? name = some one ∧ b.field? name = some two ∧ same one two ∧
        a.need name = .ok one ∧ b.need name = .ok two := by
  rcases field?_same equal other with ⟨absent, absent'⟩ | ⟨one, two, held, held', inner⟩
  · refine .inl ⟨.internal (.noField a.kind name), ?_, ?_⟩
    · rw [need, absent]
    · rw [need, absent', kind_same equal regular regular']
  · exact .inr ⟨one, two, held, held', inner, need_of_field? held, need_of_field? held'⟩

/-- A field that holds a text holds the same text. -/
theorem need_eq_of_isText {name : String} (other : name ≠ "location") (regular : a.Regular)
    (regular' : b.Regular) (text : ∀ value, a.field? name = some value → value.IsText) :
    a.need name = b.need name := by
  rcases need_same equal other regular regular' with
    ⟨failure, failed, failed'⟩ | ⟨one, two, held, -, inner, found, found'⟩
  · rw [failed, failed']
  · rw [found, found', eq_of_isText inner (text one held)]

theorem constantValue_same (ordinary : a.Ordinary) (ordinary' : b.Ordinary)
    (text : ∀ value, a.field? "text" = some value → value.IsText)
    (number : ∀ value, a.field? "value" = some value → value.IsNumber) :
    a.constantValue = b.constantValue := by
  have regular := ordinary.regular
  have regular' := ordinary'.regular
  -- What is not written as digits in the source has its value in a field.
  have fielded : a.need "value" = b.need "value" := by
    have other : "value" ≠ "location" := by decide
    rcases need_same equal other regular regular' with
      ⟨failure, failed, failed'⟩ | ⟨one, two, held, held', inner, found, found'⟩
    · rw [failed, failed']
    · have below := (ordinary'.field (mem_fields_of_field? held')).regular
      rw [found, found', eq_of_isNumber inner (number one held) below]
  have alike := matches_of_same equal
  cases alike with
  | integerConstant texts =>
      have same := eq_of_isText texts (text _ rfl)
      rw [constantValue, constantValue, same]
  | _ => exact fielded

end Same

/-! ## Lowering -/

theorem Stray.within {tree node : Tree} (stray : Stray tree node) : Within node tree := by
  cases stray with
  | program => exact .here
  | function => exact .field List.mem_cons_self .here
  | statement =>
      exact .field List.mem_cons_self (.field (List.mem_cons_of_mem _ List.mem_cons_self) .here)
  | expression =>
      exact .field List.mem_cons_self (.field (List.mem_cons_of_mem _ List.mem_cons_self)
        (.field List.mem_cons_self .here))

/-- Trees that are the same have the same stray. -/
theorem Stray.same {a b node : Tree} (stray : Stray a node) (equal : same a b) :
    ∃ node', Stray b node' ∧ same node node' := by
  cases stray with
  | program other =>
      refine ⟨b, .program ?_, equal⟩
      rintro definition place rfl
      cases matches_of_same equal
      exact other _ _ rfl
  | function other =>
      cases matches_of_same equal with
      | program definitions =>
          refine ⟨_, .function ?_, definitions⟩
          rintro name body type parameters start rfl
          cases matches_of_same definitions
          exact other _ _ _ _ _ rfl
  | statement other =>
      cases matches_of_same equal with
      | program definitions =>
          cases matches_of_same definitions with
          | function _ bodies =>
              refine ⟨_, .statement ?_, bodies⟩
              rintro expression outer rfl
              cases matches_of_same bodies
              exact other _ _ rfl
  | expression other =>
      cases matches_of_same equal with
      | program definitions =>
          cases matches_of_same definitions with
          | function _ bodies =>
              cases matches_of_same bodies with
              | returnStatement expressions =>
                  refine ⟨_, .expression ?_, expressions⟩
                  rintro constant inner rfl
                  cases matches_of_same expressions
                  exact other _ _ rfl

theorem Spine.same {a b name constant : Tree} (spine : Spine name constant a) (equal : same a b) :
    ∃ name' constant', Spine name' constant' b ∧ same name name' ∧ same constant constant' := by
  cases spine
  cases matches_of_same equal with
  | program definitions =>
      cases matches_of_same definitions with
      | function names bodies =>
          cases matches_of_same bodies with
          | returnStatement expressions =>
              cases matches_of_same expressions with
              | constantExpression constants => exact ⟨_, _, .whole, names, constants⟩

/-- The places of the name and of the constant of an ordinary tree. -/
theorem Spine.ordinary {tree name constant : Tree} (spine : Spine name constant tree)
    (ordinary : tree.Ordinary) :
    (name.Ordinary ∧ ∀ value, name.field? "name" = some value → value.IsText) ∧
      constant.Ordinary ∧ (∀ value, constant.field? "text" = some value → value.IsText) ∧
        ∀ value, constant.field? "value" = some value → value.IsNumber := by
  cases spine
  have definition := ordinary.field List.mem_cons_self
  have body := definition.field (List.mem_cons_of_mem _ List.mem_cons_self)
  have expression := body.field List.mem_cons_self
  obtain ⟨-, -, named⟩ := definition.regular.function rfl
  obtain ⟨text, value⟩ := expression.regular.constant rfl _ rfl
  exact ⟨⟨definition.field List.mem_cons_self, named _ rfl⟩, expression.field List.mem_cons_self,
    text, value⟩

theorem Regular.exists_place {tree : Tree} (regular : tree.Regular) :
    ∃ place, tree.location?.mapM display = .ok place := by
  unfold location?
  cases held : tree.field? "location" with
  | none => exact ⟨none, rfl⟩
  | some place =>
      obtain ⟨-, text, shown⟩ := regular.located place (mem_fields_of_field? held)
      rw [Option.filter_some]
      split
      · refine ⟨some text, ?_⟩
        rw [Option.mapM_some, shown]
        rfl
      · exact ⟨none, rfl⟩

/-- Ordinary trees that are the same are lowered alike: they have the same outcome, or nodes of the
    same kind are reported. -/
theorem lower_same {a b : Tree} (ordinary : a.Ordinary) (ordinary' : b.Ordinary)
    (equal : same a b) :
    a.lower = b.lower ∨ ∃ node place node' place',
      a.lower = .error (.diagnosed { problem := .unsupportedNode node place "lowering" }) ∧
      b.lower = .error (.diagnosed { problem := .unsupportedNode node' place' "lowering" }) ∧
      node.kind = node'.kind := by
  rcases stray_or_spine a with ⟨node, stray⟩ | ⟨name, constant, spine⟩
  · obtain ⟨node', stray', inner⟩ := stray.same equal
    have regular := ordinary node stray.within
    have regular' := ordinary' node' stray'.within
    obtain ⟨place, located⟩ := regular.exists_place
    obtain ⟨place', located'⟩ := regular'.exists_place
    refine .inr ⟨node, place, node', place', ?_, ?_, kind_same inner regular regular'⟩
    · rw [lower_of_stray stray, Failure.unsupported_eq_diagnosed_iff.2 ⟨place, located, rfl⟩]
    · rw [lower_of_stray stray', Failure.unsupported_eq_diagnosed_iff.2 ⟨place', located', rfl⟩]
  · obtain ⟨name', constant', spine', names, constants⟩ := spine.same equal
    obtain ⟨⟨named, text⟩, held, digits, number⟩ := spine.ordinary ordinary
    obtain ⟨⟨named', -⟩, held', -⟩ := spine'.ordinary ordinary'
    left
    rw [lower_of_spine spine, lower_of_spine spine',
      constantValue_same constants held held' digits number,
      need_eq_of_isText names (by decide) named.regular named'.regular text]

end Tree

/-! ## Outlines -/

namespace Outline

open MicroC.Tree

/-- Visits are the same if the lines are, and what is visited below is visited alike. -/
theorem visit_congr {style : Style} {a b : Tree} (line : style.line? a = style.line? b)
    (indents : style.indents a = style.indents b)
    (below : (∃ failure, style.below a = .error failure ∧ style.below b = .error failure) ∨
      ∃ trees others, style.below a = .ok trees ∧ style.below b = .ok others ∧
        List.Forall₂ (fun x y => visit style x = visit style y) trees others) :
    visit style a = visit style b := by
  rw [visit_eq, visit_eq style b, line, indents]
  rcases below with ⟨failure, failed, failed'⟩ | ⟨trees, others, visited, visited', each⟩
  · rw [failed, failed']
  · have lower : trees.forM (visit style) = others.forM (visit style) := by
      clear visited visited'
      induction each with
      | nil => rfl
      | cons here _ ih =>
          change (_ >>= fun _ => _) = (_ >>= fun _ => _)
          rw [here, ih]
    rw [visited, visited']
    simp only [lower]

section Same

variable {a b : Tree} (ordinary : a.Ordinary) (ordinary' : b.Ordinary) (equal : same a b)
include ordinary ordinary' equal

theorem needText_same {name : String} (other : name ≠ "location")
    (text : ∀ value, a.field? name = some value → value.IsText) :
    a.needText name = b.needText name := by
  rw [needText, needText,
    need_eq_of_isText equal other ordinary.regular ordinary'.regular text]

/-- What a field of a field shows. -/
theorem bind_needText_same {outer inner : String} (other : outer ≠ "location")
    (other' : inner ≠ "location")
    (text : ∀ part, a.field? outer = some part →
      ∀ value, part.field? inner = some value → value.IsText) :
    (a.need outer >>= (needText · inner)) = (b.need outer >>= (needText · inner)) := by
  rcases need_same equal other ordinary.regular ordinary'.regular with
    ⟨failure, failed, failed'⟩ | ⟨one, two, held, held', alike, found, found'⟩
  · rw [failed, failed']
  · rw [found, found']
    exact needText_same (ordinary.field (mem_fields_of_field? held))
      (ordinary'.field (mem_fields_of_field? held')) alike other' (text one held)

theorem functionLine_same (kind : a.kind = "FunctionNode") : functionLine a = functionLine b := by
  obtain ⟨types, lists, names⟩ := ordinary.regular.function kind
  have name := bind_needText_same ordinary ordinary' equal (by decide) (by decide) names
  rw [functionLine, functionLine, needText_same ordinary ordinary' equal (by decide) types,
    needText_same ordinary ordinary' equal (by decide) lists]
  simp only [← bind_assoc, name]

theorem constantLine_same (kind : a.kind = "ConstantExpression") :
    constantLine a = constantLine b := by
  have texts := fun constant held => (ordinary.regular.constant kind constant held).1
  have text := bind_needText_same ordinary ordinary' equal (by decide) (by decide) texts
  rw [constantLine, constantLine]
  simp only [← bind_assoc, text]

theorem line?_same : Style.source.line? a = Style.source.line? b := by
  have kinds := kind_same equal ordinary.regular ordinary'.regular
  have function := functionLine_same ordinary ordinary' equal
  have constant := constantLine_same ordinary ordinary' equal
  rw [kinds] at function constant
  unfold Style.line?
  rw [kinds]
  -- Only two of the lines look at more than the kind.
  split
  next => rfl
  next kind => exact congrArg some (function kind)
  next => rfl
  next kind => exact congrArg some (constant kind)
  iterate 4 next => contradiction
  next => rfl

theorem indents_same : Style.source.indents a = Style.source.indents b := by
  rw [Style.indents, Style.indents, kind_same equal ordinary.regular ordinary'.regular]

variable {related : Tree → Tree → Prop}
  (below : ∀ x y, x.size < a.size → x.Ordinary → y.Ordinary → same x y → related x y)
include below

theorem single_related {name : String} (other : name ≠ "location") :
    (∃ failure, (do return [← a.need name]) = (.error failure : Except Failure (List Tree)) ∧
      (do return [← b.need name]) = (.error failure : Except Failure (List Tree))) ∨
    ∃ trees others, (do return [← a.need name]) = (.ok trees : Except Failure (List Tree)) ∧
      (do return [← b.need name]) = (.ok others : Except Failure (List Tree)) ∧
      List.Forall₂ related trees others := by
  rcases need_same equal other ordinary.regular ordinary'.regular with
    ⟨failure, failed, failed'⟩ | ⟨one, two, held, held', alike, found, found'⟩
  · rw [failed, failed']
    exact .inl ⟨failure, rfl, rfl⟩
  · rw [found, found']
    have inner := below one two (size_lt_of_field? held)
      (ordinary.field (mem_fields_of_field? held)) (ordinary'.field (mem_fields_of_field? held')) alike
    exact .inr ⟨[one], [two], rfl, rfl, .cons inner .nil⟩

theorem children_related : List.Forall₂ related a.children b.children := by
  have first : ∀ x ∈ a.children, ∀ y, y.Ordinary → same x y → related x y :=
    fun x member y => below x y (size_lt_of_mem_children member) (ordinary.child member)
  have second : ∀ y ∈ b.children, y.Ordinary := fun y member => ordinary'.child member
  have inner := children_same equal ordinary.regular ordinary'.regular
  have turned : List.Forall₂ (fun y x => y.Ordinary ∧ same x y) b.children a.children :=
    (List.forall₂_and_left _ _).2 ⟨second, inner.flip⟩
  have both := (List.forall₂_and_left _ _).2 ⟨first, turned.flip⟩
  exact both.imp fun x y all => all.1 y all.2.1 all.2.2

/-- What stands below trees that are the same is related, if it can be reached. -/
theorem below_related :
    (∃ failure, Style.source.below a = .error failure ∧ Style.source.below b = .error failure) ∨
    ∃ trees others, Style.source.below a = .ok trees ∧ Style.source.below b = .ok others ∧
      List.Forall₂ related trees others := by
  have kinds := kind_same equal ordinary.regular ordinary'.regular
  have single {name : String} := @single_related _ _ ordinary ordinary' equal _ below name
  unfold Style.below
  rw [kinds]
  split
  next => exact single (by decide)
  next => exact single (by decide)
  next => exact single (by decide)
  next => exact .inr ⟨[], [], rfl, rfl, .nil⟩
  iterate 4 next => contradiction
  next => exact .inr ⟨_, _, rfl, rfl, children_related ordinary ordinary' equal below⟩

end Same

/-- Ordinary trees that are the same are visited alike. -/
theorem visit_same {a b : Tree} (ordinary : a.Ordinary) (ordinary' : b.Ordinary)
    (equal : same a b) : visit .source a = visit .source b := by
  apply visit_congr (line?_same ordinary ordinary' equal) (indents_same ordinary ordinary' equal)
  -- What stands below is smaller, so that by induction it is visited alike.
  apply below_related ordinary ordinary' equal
  intro x y smaller ordinary ordinary' equal
  exact visit_same ordinary ordinary' equal
termination_by a.size

theorem outline_same {a b : Tree} (ordinary : a.Ordinary) (ordinary' : b.Ordinary)
    (equal : same a b) : outline .source a = outline .source b := by
  rw [outline, outline, print, print, visit_same ordinary ordinary' equal]

end Outline

/-! ## Tokens -/

namespace Source

theorem Program.same_of_unlocated {one two : Program} (equal : one.unlocated = two.unlocated) :
    one.toTree.same two.toTree := by
  obtain ⟨⟨⟨name, _⟩, ⟨⟨⟨digits, _⟩, _⟩, _⟩, _⟩, _⟩ := one
  obtain ⟨⟨⟨name', _⟩, ⟨⟨⟨digits', _⟩, _⟩, _⟩, _⟩, _⟩ := two
  have names : name = name' := congrArg (fun program => program.function.name.name) equal
  have bodies := congrArg (fun program => program.function.body) equal
  obtain rfl : digits = digits' := by
    simpa [Program.unlocated, Function.unlocated, Statement.unlocated, Expression.unlocated,
      IntegerConstant.unlocated] using bodies
  subst names
  apply Tree.same_of_matches
  refine .program (Tree.same_of_matches (.function ?_ ?_ (by simp [Tree.same]) (by simp [Tree.same])))
  · exact Tree.same_of_matches (.identifier (same_ofText? name))
  · refine Tree.same_of_matches (.returnStatement (Tree.same_of_matches (.constantExpression ?_)))
    exact Tree.same_of_matches (.integerConstant (same_ofText? digits))

/-- Tokens that are the same but for their locations are read as programs that are the same, or
    fail with the same problem. -/
theorem parse_same {tokens others : List Token}
    (equal : tokens.map Token.unlocated = others.map Token.unlocated)
    (spelled : ∀ token ∈ tokens, ∃ text, token.lexeme? = some text)
    (nameable : Nameable tokens) (nameable' : Nameable others) (lines lines' : List String) :
    (∃ one two, parse tokens lines = .ok one ∧ parse others lines' = .ok two ∧
      one.toTree.same two.toTree) ∨
    ∃ one two, parse tokens lines = .error (.diagnosed one) ∧
      parse others lines' = .error (.diagnosed two) ∧ one.problem = two.problem := by
  have spelled' := spelled_alike equal spelled
  have alike := derive_alike equal spelled lines lines'
  rw [parse_eq_derive spelled nameable, parse_eq_derive spelled' nameable']
  cases first : derive tokens lines with
  | ok one =>
      cases second : derive others lines' with
      | ok two =>
          rw [first, second] at alike
          exact .inl ⟨one, two, rfl, rfl, Program.same_of_unlocated (Except.ok.inj alike)⟩
      | error failure =>
          rw [first, second] at alike
          cases alike
  | error failure =>
      cases second : derive others lines' with
      | ok two =>
          rw [first, second] at alike
          cases alike
      | error failure' =>
          obtain ⟨one, rfl, -⟩ := refuses_of_derive lines spelled first
          obtain ⟨two, rfl, -⟩ := refuses_of_derive lines' spelled' second
          rw [first, second] at alike
          have problems := congrArg Diagnostic.problem (Failure.diagnosed.inj (Except.error.inj alike))
          exact .inr ⟨one, two, rfl, rfl, problems⟩

end Source

/-! ## The whole -/

end MicroC
