import MicroC.Proofs.Dump
import MicroC.Proofs.EndToEnd
import MicroC.Proofs.Viable

/-! # Compiling without locations

Tokens and programs carry locations, and nothing that is compiled depends on them. Tokens that are equal
but for their locations are read as programs that are, or fail with the same problem, and the same
machine program is made from both.
-/

namespace MicroC

namespace Source

/-! ## Programs without locations -/

def Identifier.unlocated (identifier : Identifier) : Identifier where
  name := identifier.name

def IntegerConstant.unlocated (constant : IntegerConstant) : IntegerConstant where
  text := constant.text

def Expression.unlocated : Expression → Expression
  | .constant value _ => .constant value.unlocated none

def Statement.unlocated : Statement → Statement
  | .ret expression _ => .ret expression.unlocated none

def Function.unlocated (function : Function) : Function where
  name := function.name.unlocated
  body := function.body.unlocated

/-- The program without its locations. -/
def Program.unlocated (program : Program) : Program where
  function := program.function.unlocated

theorem Program.named_unlocated (program : Program) : program.unlocated.named = program.named := by
  obtain ⟨⟨name, ⟨⟨constant, inner⟩, outer⟩, place⟩, start⟩ := program
  rfl

theorem Program.unlocated_ofPhrase (tokens : List Token) :
    (ofPhrase tokens).unlocated = (ofPhrase (tokens.map Token.unlocated)).unlocated := by
  simp only [unlocated, Function.unlocated, ofPhrase, Function.ofPhrase, Identifier.unlocated,
    Statement.unlocated, Expression.unlocated, IntegerConstant.unlocated, textAt_unlocated]

end Source

/-! ## Outcomes without locations -/

/-- What a failure says, without the place and the line where it says so. -/
def Failure.unlocated : Failure → Failure
  | .diagnosed diagnostic => .diagnosed { problem := diagnostic.problem }
  | other => other

/-- An outcome without locations, given what a result is without them. -/
def unlocatedWith (strip : α → β) : Except Failure α → Except Failure β
  | .ok value => .ok (strip value)
  | .error failure => .error failure.unlocated

theorem unlocatedWith_bind {one two : Except Failure α} {next other : α → Except Failure β}
    {strip : α → γ} {strip' : β → δ} (same : unlocatedWith strip one = unlocatedWith strip two)
    (later : ∀ value value', one = .ok value → two = .ok value' → strip value = strip value' →
      unlocatedWith strip' (next value) = unlocatedWith strip' (other value')) :
    unlocatedWith strip' (one >>= next) = unlocatedWith strip' (two >>= other) := by
  cases one with
  | error failure =>
      cases two with
      | error failure' => exact congrArg Except.error (Except.error.inj same)
      | ok value => cases same
  | ok value =>
      cases two with
      | error failure => cases same
      | ok value' => exact later value value' rfl rfl (Except.ok.inj same)

theorem unlocatedWith_bind_same {computation : Except Failure α} {next other : α → Except Failure β}
    {strip : β → γ}
    (later : ∀ value, computation = .ok value →
      unlocatedWith strip (next value) = unlocatedWith strip (other value)) :
    unlocatedWith strip (computation >>= next) = unlocatedWith strip (computation >>= other) := by
  refine @unlocatedWith_bind _ _ _ _ _ _ _ _ id strip rfl ?_
  rintro value value' ok - rfl
  exact later value ok

/-! ## Reading tokens -/

namespace Source

theorem fit_unlocated (kinds : List Token.Kind) (tokens : List Token) :
    fit kinds (tokens.map Token.unlocated) = fit kinds tokens := by
  induction kinds generalizing tokens with
  | nil => simp [fit]
  | cons kind kinds ih =>
      cases tokens with
      | nil => simp [fit]
      | cons token tokens => simp [fit, ih, Token.unlocated]

section Alike

variable {tokens others : List Token}
  (same : tokens.map Token.unlocated = others.map Token.unlocated)
include same

theorem fit_alike (kinds : List Token.Kind) : fit kinds tokens = fit kinds others := by
  rw [← fit_unlocated, same, fit_unlocated]

theorem kinds_alike : tokens.map Token.kind = others.map Token.kind := by
  have kinds := congrArg (List.map Token.kind) same
  rwa [List.map_map, List.map_map] at kinds

theorem getElem?_alike {index : Nat} {token : Token} (ahead : tokens[index]? = some token) :
    ∃ other, others[index]? = some other ∧ other.lexeme? = token.lexeme? := by
  have there := congrArg (fun list => list[index]?) same
  simp only [List.getElem?_map, ahead, Option.map_some] at there
  obtain ⟨other, found, equal⟩ := Option.map_eq_some_iff.1 there.symm
  have lexemes : other.unlocated.lexeme? = token.unlocated.lexeme? := congrArg Token.lexeme? equal
  exact ⟨other, found, lexemes⟩

theorem spelled_alike (spelled : ∀ token ∈ tokens, ∃ text, token.lexeme? = some text) :
    ∀ token ∈ others, ∃ text, token.lexeme? = some text := by
  intro token member
  obtain ⟨index, ahead⟩ := List.mem_iff_getElem?.1 member
  obtain ⟨other, found, lexeme⟩ := getElem?_alike same.symm ahead
  rw [← lexeme]
  exact spelled other (List.mem_of_getElem? found)

theorem Refuses.alike {lines : List String} {diagnostic : Diagnostic}
    (refuses : Refuses tokens lines diagnostic) (lines' : List String) :
    ∃ other, Refuses others lines' other ∧ diagnostic.problem = other.problem := by
  have fits := fit_alike same programKinds
  cases refuses with
  | unexpected missed ahead text =>
      rw [fits] at missed ahead
      obtain ⟨other, found, lexeme⟩ := getElem?_alike same ahead
      exact ⟨_, .unexpected missed found (lexeme.trans text), rfl⟩
  | ended missed ended =>
      have length := congrArg List.length same
      rw [List.length_map, List.length_map] at length
      rw [fits] at missed ended
      exact ⟨_, .ended missed (ended.trans length), rfl⟩
  | trailing full ahead text =>
      obtain ⟨other, found, lexeme⟩ := getElem?_alike same ahead
      exact ⟨_, .trailing (fits ▸ full) found (lexeme.trans text), rfl⟩

/-- Tokens that are equal but for their locations are read alike, whatever the lines for diagnostics
    are. -/
theorem derive_alike (spelled : ∀ token ∈ tokens, ∃ text, token.lexeme? = some text)
    (lines lines' : List String) :
    unlocatedWith Program.unlocated (derive tokens lines) =
      unlocatedWith Program.unlocated (derive others lines') := by
  cases outcome : derive tokens lines with
  | ok program =>
      obtain ⟨kinds, rfl⟩ := derive_eq_ok_iff.1 outcome
      have accepted : derive others lines' = .ok (.ofPhrase others) :=
        derive_eq_ok_iff.2 ⟨(kinds_alike same).symm.trans kinds, rfl⟩
      rw [accepted]
      apply congrArg Except.ok
      rw [Program.unlocated_ofPhrase, same, ← Program.unlocated_ofPhrase]
  | error failure =>
      obtain ⟨diagnostic, rfl, refuses⟩ := refuses_of_derive lines spelled outcome
      obtain ⟨other, refuses', alike⟩ := refuses.alike same lines'
      rw [derive_of_refuses lines' (spelled_alike same spelled) refuses']
      exact congrArg (fun problem => Except.error (Failure.diagnosed { problem })) alike

end Alike

end Source

/-! ## Whole compilations -/

/-- What a compilation has made, without locations. -/
def Compilation.unlocated (compilation : Compilation) : Compilation :=
  { compilation with
    tokens := compilation.tokens.map Token.unlocated
    program := compilation.program.map Source.Program.unlocated }

section Compilations

variable {options : Options} {one two : Compilation} (alike : one.unlocated = two.unlocated)
include alike

theorem fromMachine_alike (machine : Machine.Program) :
    unlocatedWith Compilation.unlocated (one.fromMachine options machine) =
      unlocatedWith Compilation.unlocated (two.fromMachine options machine) := by
  have target : one.target = two.target := by
    simpa only [Compilation.unlocated] using congrArg Compilation.target alike
  have emitted : machine.emit one.target = machine.emit two.target := by rw [target]
  apply unlocatedWith_bind_same
  intro _ _
  split
  · exact congrArg Except.ok alike
  · rw [emitted]
    apply unlocatedWith_bind_same
    intro assembly _
    exact congrArg (fun made : Compilation => Except.ok { made with assembly, stage := some .emit })
      alike

theorem fromProgram_alike {program other : Source.Program}
    (same : program.unlocated = other.unlocated) :
    unlocatedWith Compilation.unlocated (one.fromProgram options program) =
      unlocatedWith Compilation.unlocated (two.fromProgram options other) := by
  have named : program.named = other.named := by
    rw [← program.named_unlocated, same, other.named_unlocated]
  rw [Compilation.fromProgram, Compilation.fromProgram, dumped_program, dumped_program, named]
  change unlocatedWith _ (ite _ _ _) = unlocatedWith _ (ite _ _ _)
  split
  · exact congrArg Except.ok alike
  · apply unlocatedWith_bind_same
    intro machine _
    apply fromMachine_alike
    exact congrArg
      (fun made : Compilation => { made with machine := some machine, stage := some .codegen }) alike

/-- Compilations that have the same tokens, but for their locations, go on alike. -/
theorem fromTokens_alike (spelled : ∀ token ∈ one.tokens, ∃ text, token.lexeme? = some text)
    (source source' : String) :
    unlocatedWith Compilation.unlocated (one.fromTokens options source) =
      unlocatedWith Compilation.unlocated (two.fromTokens options source') := by
  have same : one.tokens.map Token.unlocated = two.tokens.map Token.unlocated :=
    congrArg Compilation.tokens alike
  rw [Compilation.fromTokens, Compilation.fromTokens]
  split
  · exact congrArg Except.ok alike
  · apply unlocatedWith_bind (Source.derive_alike same spelled _ _)
    intro program other _ _ equal
    refine fromProgram_alike ?_ equal
    exact congrArg₂ (fun (made : Compilation) program =>
      { made with program := some program, stage := some .parse }) alike equal

end Compilations

end MicroC
