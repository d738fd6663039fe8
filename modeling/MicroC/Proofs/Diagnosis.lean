import MicroC.Proofs.Lowered
import MicroC.Proofs.Offence
import MicroC.Proofs.Reaching
import MicroC.Proofs.Viable

/-! # Failures with a diagnosis

A text that spells no program is refused with a diagnostic, of the lexer or of the parser. The only
failures without one are those of programs whose constant is too long: a decimal constant cannot be
read, and an octal one can be read and not be written.
-/

namespace MicroC

theorem Describes.phase {chars : List Char} {offset : Nat} {problem : Problem}
    (describes : Describes chars offset problem) : problem.phase = .lex := by
  cases describes <;> rfl

theorem Buffer.phase_of_error {buffer : Buffer} {diagnostic : Diagnostic}
    (refused : buffer.tokens = .error diagnostic) : diagnostic.problem.phase = .lex := by
  have verdict := buffer.verdict
  rw [refused] at verdict
  obtain ⟨offset, describes, -, -⟩ := verdict
  exact describes.phase

/-- The fault of a constant that cannot be compiled. -/
def constantFault (digits : List Char) : NumeralFault :=
  if digits.head? = some '0' then .tooLarge else .tooManyDigits digits.length

/-- How compiling a text fails: with a diagnostic if it spells no program, and otherwise because of the
    constant. -/
inductive Explains (source : List Char) : Failure → Prop where
  | diagnosed {diagnostic : Diagnostic} : (¬ ∃ name constant, ProgramText name constant source) →
      diagnostic.problem.phase = .lex ∨ diagnostic.problem.phase = .parse →
      Explains source (.diagnosed diagnostic)
  | constant {name constant : String} : ProgramText name constant source →
      ¬ Representable constant.toList → Explains source (.numeral (constantFault constant.toList))

section Failures

variable {selection : Option String} {platform file source : String}

/-- What is not read as a program is none. -/
theorem not_programText_of_parse {found : List Token} {lines : List String} {failure : Failure}
    (accepted : (Buffer.ofString file source).tokens = .ok found)
    (refused : Source.derive found lines = .error failure) :
    ¬ ∃ name constant, ProgramText name constant source.toList := by
  rintro ⟨name, constant, written⟩
  obtain ⟨others, accepted', same⟩ :=
    (programText_iff_tokens (Buffer.ofString file source)).1 written
  obtain rfl : found = others := Except.ok.inj (accepted.symm.trans accepted')
  rw [Source.derive_eq_ok_iff.2 ⟨kinds_of_programTokens same, rfl⟩] at refused
  cases refused

theorem Breaks.explains {origin : Option Stage} {failure : Failure}
    (broken : Breaks selection platform file source origin failure) {target : Target}
    (chosen : Options.resolveTarget { target := selection } platform = .ok target) :
    Explains source.toList failure := by
  cases broken with
  | target unresolved =>
      rw [chosen] at unresolved
      cases unresolved
  | lex _ failed =>
      obtain ⟨diagnostic, refused, rfl⟩ := Buffer.lex_eq_error_iff.1 failed
      refine .diagnosed ?_ (.inl (Buffer.phase_of_error refused))
      rintro ⟨name, constant, written⟩
      obtain ⟨found, accepted, -⟩ :=
        (programText_iff_tokens (Buffer.ofString file source)).1 written
      rw [refused] at accepted
      cases accepted
  | parse reached refused =>
      rw [Traced.outcome_eq (Source.Program.comesTo_ofLexed _ _ _)] at refused
      obtain ⟨diagnostic, rfl, refuses⟩ :=
        Source.refuses_of_derive _ (Buffer.spelled reached.tokens_eq) refused
      exact .diagnosed (not_programText_of_parse reached.tokens_eq refused) (.inr refuses.phase)
  | codegen reached there refused =>
      rw [outcome_ofTree] at refused
      obtain ⟨found, accepted, parsed⟩ := reached.parse_eq there
      obtain ⟨name, constant, written, rfl, decimal, long⟩ :=
        exists_tooManyDigits accepted parsed refused
      have unreadable : ¬ Representable constant.toList := by
        rw [representable_iff written.lexemes.2]
        exact fun both => both.1 ⟨decimal, long⟩
      have other : constant.toList.head? ≠ some '0' :=
        fun zero => fits_of_zero zero ⟨decimal, long⟩
      have fault : constantFault constant.toList = .tooManyDigits constant.toList.length :=
        if_neg other
      rw [← fault]
      exact .constant written unreadable
  | emit reached there refused =>
      obtain ⟨found, program, accepted, parsed, lowered⟩ := reached.named_eq there
      obtain ⟨name, constant, written, rfl, fits⟩ := exists_returning accepted parsed lowered
      obtain ⟨named, digits⟩ := written.lexemes
      rw [Machine.Program.emit_returning _ _ named.ne_empty] at refused
      have large : 10 ^ 4300 ≤ constantValue constant.toList := by
        apply Nat.not_lt.1
        intro small
        rw [Numeral.write_natCast_eq_ok_iff.2 ⟨small, rfl⟩] at refused
        cases refused
      have unwritable : ¬ Representable constant.toList := by
        rw [representable_iff digits]
        exact fun both => Nat.not_lt.2 large both.2
      have fault : constantFault constant.toList = .tooLarge := if_pos (zero_of_large digits fits large)
      rw [Numeral.write_natCast_of_le large] at refused
      obtain rfl : .numeral .tooLarge = failure := Except.error.inj refused
      rw [← fault]
      exact .constant written unwritable

theorem explains_of_assemble {target : Target} {failure : Failure}
    (chosen : Options.resolveTarget { target := selection } platform = .ok target)
    (failed : assemble selection platform file source = .error failure) :
    Explains source.toList failure := by
  have stops : stopped selection platform file source .emit = .error failure := by
    change (stopped selection platform file source .emit).map _ = _ at failed
    cases outcome : stopped selection platform file source .emit with
    | ok result =>
        rw [outcome] at failed
        cases failed
    | error other =>
        rw [outcome] at failed
        exact congrArg Except.error (Except.error.inj failed)
  obtain ⟨origin, broken, -⟩ := breaks_of_stopped stops
  exact broken.explains chosen

theorem assemble_of_unrepresentable {target : Target} {name constant : String}
    (chosen : Options.resolveTarget { target := selection } platform = .ok target)
    (written : ProgramText name constant source.toList)
    (unrepresentable : ¬ Representable constant.toList) (file : String) :
    assemble selection platform file source =
      .error (.numeral (constantFault constant.toList)) := by
  cases outcome : assemble selection platform file source with
  | ok text =>
      obtain ⟨found, accepted, same⟩ :=
        (programText_iff_tokens (Buffer.ofString file source)).1 written
      obtain ⟨named, digits⟩ := written.lexemes
      exact absurd ((assemble_of_tokens chosen accepted same named digits text).1 outcome).1
        unrepresentable
  | error failure =>
      cases explains_of_assemble chosen outcome with
      | diagnosed none _ => exact absurd ⟨name, constant, written⟩ none
      | constant other _ =>
          obtain ⟨-, rfl⟩ := written.unique other
          rfl

end Failures

/-- Compiling returns a text or fails with a diagnostic, of the lexer or of the parser, unless the
    source spells a program whose constant is not representable. Then it fails with the fault of that
    constant, for which there is no diagnostic. -/
theorem assemble_diagnosed_iff_representable {selection : Option String} {platform : String}
    {target : Target}
    (chosen : Options.resolveTarget { target := selection } platform = .ok target)
    (file source : String) :
    (((∃ text, assemble selection platform file source = .ok text) ∨
        ∃ diagnostic, assemble selection platform file source = .error (.diagnosed diagnostic) ∧
          (diagnostic.problem.phase = .lex ∨ diagnostic.problem.phase = .parse)) ↔
      ∀ name constant, ProgramText name constant source.toList → Representable constant.toList) ∧
    ∀ name constant, ProgramText name constant source.toList → ¬ Representable constant.toList →
      assemble selection platform file source = .error (.numeral (constantFault constant.toList)) := by
  refine ⟨⟨?_, ?_⟩, ?_⟩
  · intro ends name constant written
    by_contra unrepresentable
    have failed := assemble_of_unrepresentable chosen written unrepresentable file
    rcases ends with ⟨text, returned⟩ | ⟨diagnostic, refused, -⟩
    · rw [failed] at returned
      cases returned
    · rw [failed] at refused
      cases refused
  · intro representable
    cases outcome : assemble selection platform file source with
    | ok text => exact .inl ⟨text, rfl⟩
    | error failure =>
        right
        cases explains_of_assemble chosen outcome with
        | diagnosed _ phase => exact ⟨_, rfl, phase⟩
        | constant written unrepresentable =>
            exact absurd (representable _ _ written) unrepresentable
  · intro name constant written unrepresentable
    exact assemble_of_unrepresentable chosen written unrepresentable file

/-- A character that belongs to no token. -/
theorem assemble_diagnosed_iff_representable_stranger :
    Options.resolveTarget { target := some "LINUX" } "darwin" = .ok .linux ∧
    ((∃ text, assemble (some "LINUX") "darwin" "f.c" "@" = .ok text) ∨
      ∃ diagnostic, assemble (some "LINUX") "darwin" "f.c" "@" = .error (.diagnosed diagnostic) ∧
        (diagnostic.problem.phase = .lex ∨ diagnostic.problem.phase = .parse)) := by
  have chosen : Options.resolveTarget { target := some "LINUX" } "darwin" = .ok .linux := rfl
  obtain ⟨ends, -⟩ := assemble_diagnosed_iff_representable chosen "f.c" "@"
  refine ⟨chosen, ends.2 ?_⟩
  intro name constant written
  generalize chars : "@".toList = source at written
  cases written with
  | spelled =>
      have length := congrArg List.length chars
      simp at length
      omega

theorem isConstant_one_zeros (zeros : Nat) : IsConstant ('1' :: List.replicate zeros '0') := by
  refine .inr ⟨by decide, ?_⟩
  intro c member
  rw [List.eq_of_mem_replicate member]
  decide

-- Stated for any number of zeros: no list of thousands of digits is ever built.
theorem assemble_one_zeros {zeros : Nat} (many : 4300 ≤ zeros) :
    assemble (some "linux") "linux" "f.c" (String.ofList
      ("int f(void)\x7breturn 1".toList ++ List.replicate zeros '0' ++ ";\x7d".toList)) =
        .error (.numeral (.tooManyDigits (zeros + 1))) := by
  let constant := String.ofList ('1' :: List.replicate zeros '0')
  have spelled : constant.toList = '1' :: List.replicate zeros '0' := String.toList_ofList
  have written : ProgramText "f" constant
      ("int f(void)\x7breturn ".toList ++ constant.toList ++ ";\x7d".toList) :=
    programText_returning (spelled ▸ isConstant_one_zeros zeros)
  have other : constant.toList.head? ≠ some '0' := by simp [spelled]
  have length : constant.toList.length = zeros + 1 := by simp [spelled]
  have unrepresentable : ¬ Representable constant.toList := by
    rw [Representable, if_neg other, length]
    omega
  rw [← String.toList_ofList (l := "int f(void)\x7breturn ".toList ++ _ ++ _)] at written
  have chosen : Options.resolveTarget { target := some "linux" } "linux" = .ok .linux := rfl
  have failed := assemble_of_unrepresentable chosen written unrepresentable "f.c"
  rw [constantFault, if_neg other, length, spelled] at failed
  simpa using failed

/-- A decimal constant of 4301 digits ends a compilation with an error that is not diagnosed. -/
theorem assemble_undiagnosed_on_many_digits :
    let source := String.ofList
      ("int f(void)\x7breturn 1".toList ++ List.replicate 4300 '0' ++ ";\x7d".toList)
    assemble (some "linux") "linux" "f.c" source = .error (.numeral (.tooManyDigits 4301)) ∧
    ¬ ((∃ text, assemble (some "linux") "linux" "f.c" source = .ok text) ∨
      ∃ diagnostic, assemble (some "linux") "linux" "f.c" source =
        .error (.diagnosed diagnostic)) := by
  intro source
  have failed : assemble (some "linux") "linux" "f.c" source =
      .error (.numeral (.tooManyDigits 4301)) := assemble_one_zeros (Nat.le_refl 4300)
  refine ⟨failed, ?_⟩
  rintro (⟨text, returned⟩ | ⟨diagnostic, refused⟩)
  · rw [failed] at returned
    cases returned
  · rw [failed] at refused
    cases refused

end MicroC
