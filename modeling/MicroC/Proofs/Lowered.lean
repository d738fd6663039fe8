import MicroC.Proofs.EndToEnd
import MicroC.Proofs.Stages

/-! # The machine program of a text

What is read from a text is lowered to code that returns the constant of the text. Lowering fails only
if that constant cannot be read.
-/

namespace MicroC

section Lowering

variable {found : List Token} {name constant : String}
  (same : found.map Token.unlocated = programTokens name constant)
include same

theorem kinds_of_programTokens : found.map Token.kind = Source.programKinds := by
  have kinds := congrArg (List.map Token.kind) same
  rwa [List.map_map] at kinds

theorem named_ofPhrase :
    (Source.Program.ofPhrase found).named =
      ((Numeral.read (Numeral.baseOf constant) constant).mapError Failure.numeral).map
        (Machine.Program.returning name) := by
  have nameText : Source.textAt found 1 = some name := by
    rw [← textAt_unlocated, same]
    rfl
  have constantText : Source.textAt found 7 = some constant := by
    rw [← textAt_unlocated, same]
    rfl
  have lowered : (Source.Program.ofPhrase found).lower = _ :=
    Source.Program.lower_eq nameText rfl constantText
  rw [Source.Program.named, lowered]
  cases Numeral.read (Numeral.baseOf constant) constant <;> rfl

end Lowering

section Texts

variable {file source : String} {found : List Token} {lines : List String}
  {program : Source.Program} (accepted : (Buffer.ofString file source).tokens = .ok found)
  (parsed : Source.derive found lines = .ok program)
include accepted parsed

theorem exists_named_eq :
    ∃ name constant, ProgramText name constant source.toList ∧
      program.named =
        ((Numeral.read (Numeral.baseOf constant) constant).mapError Failure.numeral).map
          (Machine.Program.returning name) := by
  obtain ⟨kinds, rfl⟩ := Source.derive_eq_ok_iff.1 parsed
  obtain ⟨first, pieces, rfl, segmentation⟩ := Segmentation.of_tokens_eq accepted
  obtain ⟨name, constant, same⟩ :=
    exists_programTokens (List.forall_mem_map.2 segmentation.wellFormed) kinds
  exact ⟨name, constant,
    (programText_iff_tokens (Buffer.ofString file source)).2 ⟨_, accepted, same⟩,
    named_ofPhrase same⟩

/-- What is lowered from a text returns the value of the constant in the text. -/
theorem exists_returning {machine : Machine.Program} (lowered : program.named = .ok machine) :
    ∃ name constant, ProgramText name constant source.toList ∧
      machine = .returning name (constantValue constant.toList : Nat) ∧
      ¬ (Numeral.baseOf constant = .decimal ∧ Numeral.digitLimit < constant.toList.length) := by
  obtain ⟨name, constant, written, named⟩ := exists_named_eq accepted parsed
  refine ⟨name, constant, written, ?_⟩
  rw [named, Numeral.read_constant written.lexemes.2] at lowered
  split at lowered
  next => cases lowered
  next fits =>
    cases lowered
    exact ⟨rfl, fits⟩

/-- Only a decimal constant that is too long is not lowered. -/
theorem exists_tooManyDigits {failure : Failure} (refused : program.named = .error failure) :
    ∃ name constant, ProgramText name constant source.toList ∧
      failure = .numeral (.tooManyDigits constant.toList.length) ∧
      Numeral.baseOf constant = .decimal ∧ Numeral.digitLimit < constant.toList.length := by
  obtain ⟨name, constant, written, named⟩ := exists_named_eq accepted parsed
  refine ⟨name, constant, written, ?_⟩
  rw [named, Numeral.read_constant written.lexemes.2] at refused
  split at refused
  next long =>
    cases refused
    exact ⟨rfl, long⟩
  next => cases refused

end Texts

end MicroC
