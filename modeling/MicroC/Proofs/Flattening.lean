import MicroC.Proofs.Phrase
import MicroC.Tree.Same

/-! # Flattening

Every part of a program is flattened to the tokens that spell it. Flattening undoes reading: tokens
are read as a program just if they are what that program is flattened to, but for the places and for
texts that their kinds already fix.
-/

namespace MicroC

/-- What the grammar sees of a token: its kind, and its text unless the kind has a spelling. -/
def Token.stripped (token : Token) : Token where
  kind := token.kind
  text := if token.kind.spelling?.isSome then none else token.text

namespace Source

/-! ## The tokens of a program -/

def Identifier.tokens (identifier : Identifier) : List Token :=
  [{ kind := .identifier, text := identifier.name }]

def IntegerConstant.tokens (constant : IntegerConstant) : List Token :=
  [{ kind := .constant, text := constant.text }]

def Expression.tokens : Expression → List Token
  | .constant value _ => value.tokens

def Statement.tokens : Statement → List Token
  | .ret expression _ =>
      [{ kind := .returnKeyword }] ++ expression.tokens ++ [{ kind := .semicolon }]

def Function.tokens (function : Function) : List Token :=
  [{ kind := .intKeyword }] ++ function.name.tokens ++
    [{ kind := .leftParen }, { kind := .voidKeyword }, { kind := .rightParen },
      { kind := .leftBrace }] ++
    function.body.tokens ++ [{ kind := .rightBrace }]

def Program.tokens (program : Program) : List Token :=
  program.function.tokens

theorem Program.kinds_tokens (program : Program) :
    program.tokens.map Token.kind = programKinds := by
  obtain ⟨⟨name, ⟨⟨constant, inner⟩, outer⟩, place⟩, start⟩ := program
  rfl

/-! ## Reading and flattening -/

theorem same_ofText? (text : Option String) : (Tree.ofText? text).same (.ofText? text) = true := by
  cases text <;> simp [Tree.ofText?, Tree.same]

/-- A program is read back from its tokens, but for the places. -/
theorem Program.same_ofPhrase_tokens (program : Program) :
    (ofPhrase program.tokens).toTree.same program.toTree = true := by
  obtain ⟨⟨name, ⟨⟨constant, inner⟩, outer⟩, place⟩, start⟩ := program
  have read : ofPhrase (tokens ⟨⟨name, .ret (.constant constant inner) outer, place⟩, start⟩) =
      ⟨⟨⟨name.name, none⟩, .ret (.constant ⟨constant.text, none⟩ none) none, none⟩, none⟩ := rfl
  rw [read]
  simp [toTree, Function.toTree, Identifier.toTree, Statement.toTree, Expression.toTree,
    IntegerConstant.toTree, Tree.same, same_ofText?]

/-- Tokens of the kinds of a program are what the program read from them is flattened to. -/
theorem Program.tokens_ofPhrase {tokens : List Token}
    (kinds : tokens.map Token.kind = programKinds) :
    (ofPhrase tokens).tokens = tokens.map Token.stripped := by
  simp only [programKinds, List.map_eq_cons_iff, List.map_eq_nil_iff] at kinds
  obtain ⟨_, _, rfl, k0, _, _, rfl, k1, _, _, rfl, k2, _, _, rfl, k3, _, _, rfl, k4, _, _, rfl, k5,
    _, _, rfl, k6, _, _, rfl, k7, _, _, rfl, k8, _, _, rfl, k9, rfl⟩ := kinds
  simp only [List.map_cons, List.map_nil, Token.stripped, k0, k1, k2, k3, k4, k5, k6, k7, k8, k9]
  rfl

theorem exists_parse_ok_iff_kinds {tokens : List Token} {lines : List String} :
    (∃ program, parse tokens lines = .ok program) ↔ tokens.map Token.kind = programKinds := by
  constructor
  · rintro ⟨program, accepted⟩
    exact (parse_eq_ok_iff.1 accepted).1
  · intro kinds
    exact ⟨_, parse_eq_ok_iff.2 ⟨kinds, rfl⟩⟩

/-- Tokens are a program just if their kinds are those of the phrase of a program. The program then is
    the tree of that phrase, with every part at the place of its first token, and it is flattened to the
    tokens again. Every program is the same as the one that is read from its tokens. -/
theorem parse_inverts_flattening (tokens : List Token) (lines : List String) :
    ((∃ program, parse tokens lines = .ok program) ↔
      tokens.map Token.kind =
        [.intKeyword, .identifier, .leftParen, .voidKeyword, .rightParen, .leftBrace,
          .returnKeyword, .constant, .semicolon, .rightBrace]) ∧
    (∀ program, parse tokens lines = .ok program →
      program.toTree =
        .program
          (.function
            (.identifier (.ofText? (textAt tokens 1)) (.ofLocation? (placeAt tokens 1)))
            (.returnStatement
              (.constantExpression
                (.integerConstant (.ofText? (textAt tokens 7)) (.ofLocation? (placeAt tokens 7)))
                (.ofLocation? (placeAt tokens 7)))
              (.ofLocation? (placeAt tokens 6)))
            (.text "int") (.text "void") (.ofLocation? (placeAt tokens 0)))
          (.ofLocation? (placeAt tokens 0)) ∧
      program.tokens = tokens.map Token.stripped) ∧
    ∀ program : Program, ∃ result,
      parse program.tokens lines = .ok result ∧ result.toTree.same program.toTree = true := by
  refine ⟨exists_parse_ok_iff_kinds, ?_, ?_⟩
  · intro program accepted
    obtain ⟨kinds, rfl⟩ := parse_eq_ok_iff.1 accepted
    exact ⟨rfl, Program.tokens_ofPhrase kinds⟩
  · intro program
    exact ⟨_, parse_eq_ok_iff.2 ⟨program.kinds_tokens, rfl⟩, program.same_ofPhrase_tokens⟩

/-- A keyword that carries a text of its own and a constant without one are read all the same. -/
theorem parse_inverts_flattening_odd_texts :
    let tokens : List Token :=
      [{ kind := .intKeyword, text := some "long", location := some ⟨"a.c", 1, 1⟩ },
        { kind := .identifier, text := some "f", location := some ⟨"a.c", 1, 6⟩ },
        { kind := .leftParen }, { kind := .voidKeyword }, { kind := .rightParen },
        { kind := .leftBrace }, { kind := .returnKeyword }, { kind := .constant },
        { kind := .semicolon }, { kind := .rightBrace }]
    ∃ program, parse tokens [] = .ok program ∧
      program.function.location = some ⟨"a.c", 1, 1⟩ ∧
      program.tokens.map Token.text =
        [none, some "f", none, none, none, none, none, none, none, none] := by
  intro tokens
  obtain ⟨accepts, derives, -⟩ := parse_inverts_flattening tokens []
  obtain ⟨program, accepted⟩ := accepts.2 rfl
  obtain ⟨-, flat⟩ := derives program accepted
  obtain ⟨-, rfl⟩ := parse_eq_ok_iff.1 accepted
  exact ⟨_, accepted, rfl, by rw [flat]; rfl⟩

end Source

end MicroC
