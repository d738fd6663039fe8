import MicroC.Proofs.Stages

/-! # How far a compilation gets

A compilation completes its stages one after the other and breaks off in the first that fails.
`Reaches` and `Breaks` say what it has at each stage and how it fails, in terms of the stages alone;
nothing in them depends on where the compilation is to stop. So a compilation that is to stop early
has the beginning of what a longer one has, and fails with it unless the longer one fails later.
-/

namespace MicroC

/-! ## The order of the stages -/

namespace Stage

def number : Stage → Nat
  | .lex => 1
  | .parse => 2
  | .codegen => 3
  | .emit => 4

theorem number_injective : Function.Injective number := by
  intro first second same
  cases first <;> cases second <;> simp_all [number]

instance : LE Stage := ⟨fun first second => first.number ≤ second.number⟩

instance : LT Stage := ⟨fun first second => first.number < second.number⟩

instance (first second : Stage) : Decidable (first ≤ second) :=
  inferInstanceAs (Decidable (first.number ≤ second.number))

instance (first second : Stage) : Decidable (first < second) :=
  inferInstanceAs (Decidable (first.number < second.number))

/-- A compilation that is to stop at a later stage does not stop at an earlier one. -/
theorem some_ne {early late : Stage} (earlier : early < late) :
    (some late : Option Stage) ≠ some early := by
  rintro ⟨⟩
  exact Nat.lt_irrefl _ earlier

end Stage

/-- The part of a compilation that is complete after a stage. -/
def Compilation.upTo (stage : Stage) (compilation : Compilation) : Compilation where
  file := compilation.file
  target := compilation.target
  stage := some stage
  stopAfter := some stage
  tokens := compilation.tokens
  program := if .parse ≤ stage then compilation.program else none
  machine := if .codegen ≤ stage then compilation.machine else none
  assembly := if .emit ≤ stage then compilation.assembly else ""

theorem Compilation.success_upTo (stage : Stage) (compilation : Compilation) :
    (compilation.upTo stage).success = true := by
  simp [success, upTo]

section Runs

variable (selection : Option String) (platform file source : String)

/-- What there is when a stage is complete. -/
inductive Reaches : Stage → Compilation → Prop where
  | lex {target : Target} {tokens : List Token} :
      Options.resolveTarget { target := selection } platform = .ok target →
      (Buffer.ofString file source).lex.outcome.1 = .ok tokens →
      Reaches .lex { file, target, tokens, stage := some .lex }
  | parse {lexed : Compilation} {program : Source.Program} :
      Reaches .lex lexed →
      (Source.Program.ofLexed lexed.tokens file (Text.splitLines source)).outcome.1 = .ok program →
      Reaches .parse { lexed with program := some program, stage := some .parse }
  | codegen {parsed : Compilation} {program : Source.Program} {machine : Machine.Program} :
      Reaches .parse parsed → parsed.program = some program →
      (Machine.Program.ofTree program.toTree).outcome.1 = .ok machine →
      Reaches .codegen { parsed with machine := some machine, stage := some .codegen }
  | emit {lowered : Compilation} {machine : Machine.Program} {assembly : String} :
      Reaches .codegen lowered → lowered.machine = some machine →
      machine.emit lowered.target = .ok assembly →
      Reaches .emit { lowered with assembly, stage := some .emit }

/-- A failure comes from a stage, or from the choice of the target before all stages. -/
inductive Breaks : Option Stage → Failure → Prop where
  | target {failure : Failure} :
      Options.resolveTarget { target := selection } platform = .error failure → Breaks none failure
  | lex {target : Target} {failure : Failure} :
      Options.resolveTarget { target := selection } platform = .ok target →
      (Buffer.ofString file source).lex.outcome.1 = .error failure → Breaks (some .lex) failure
  | parse {lexed : Compilation} {failure : Failure} :
      Reaches selection platform file source .lex lexed →
      (Source.Program.ofLexed lexed.tokens file (Text.splitLines source)).outcome.1 = .error failure →
      Breaks (some .parse) failure
  | codegen {parsed : Compilation} {program : Source.Program} {failure : Failure} :
      Reaches selection platform file source .parse parsed → parsed.program = some program →
      (Machine.Program.ofTree program.toTree).outcome.1 = .error failure →
      Breaks (some .codegen) failure
  | emit {lowered : Compilation} {machine : Machine.Program} {failure : Failure} :
      Reaches selection platform file source .codegen lowered → lowered.machine = some machine →
      machine.emit lowered.target = .error failure → Breaks (some .emit) failure

/-- The outcome of a compilation that is to stop after a stage. -/
def stopped (stage : Stage) : Except Failure Compilation :=
  (compile { target := selection, stopAfter := some stage } platform file source).outcome.1

end Runs

section Relations

variable {selection : Option String} {platform file source : String}

namespace Reaches

/-! ## One stage after the other -/

/-- Nothing of a later stage is there yet. -/
theorem upTo_self {stage : Stage} {result : Compilation}
    (reached : Reaches selection platform file source stage result) :
    result.upTo stage = { result with stopAfter := some stage } := by
  induction reached with
  | lex => rfl
  | @parse lexed program _ _ ih =>
      obtain ⟨_, _, _, _, _, machine, assembly, _⟩ := lexed
      obtain rfl : none = machine := congrArg Compilation.machine ih
      obtain rfl : "" = assembly := congrArg Compilation.assembly ih
      rfl
  | @codegen parsed program machine _ _ _ ih =>
      obtain ⟨_, _, _, _, _, _, assembly, _⟩ := parsed
      obtain rfl : "" = assembly := congrArg Compilation.assembly ih
      rfl
  | emit => rfl

/-- What there is at a stage is a part of what there is later. -/
theorem earlier {late : Stage} {result : Compilation}
    (reached : Reaches selection platform file source late result) {early : Stage}
    (before : early ≤ late) :
    ∃ part, Reaches selection platform file source early part ∧
      part.upTo early = result.upTo early := by
  induction reached with
  | lex resolved lexed =>
      cases early with
      | lex => exact ⟨_, .lex resolved lexed, rfl⟩
      | parse | codegen | emit => exact absurd before (by decide)
  | @parse lexed program reached parsed ih =>
      cases early with
      | lex => exact ih (by decide)
      | parse => exact ⟨_, .parse reached parsed, rfl⟩
      | codegen | emit => exact absurd before (by decide)
  | @codegen parsed program machine reached there lowered ih =>
      cases early with
      | lex | parse => exact ih (by decide)
      | codegen => exact ⟨_, .codegen reached there lowered, rfl⟩
      | emit => exact absurd before (by decide)
  | @emit lowered machine assembly reached there emitted ih =>
      cases early with
      | lex | parse | codegen => exact ih (by decide)
      | emit => exact ⟨_, .emit reached there emitted, rfl⟩

end Reaches

theorem outcome_ofTree (program : Source.Program) :
    (Machine.Program.ofTree program.toTree).outcome.1 = program.named :=
  Traced.outcome_eq (Machine.Program.comesTo_ofTree _)

namespace Reaches

/-! ## What a stage is made from -/

theorem tokens_eq {lexed : Compilation} (reached : Reaches selection platform file source .lex lexed) :
    (Buffer.ofString file source).tokens = .ok lexed.tokens := by
  cases reached with
  | lex _ accepted => exact Buffer.lex_eq_ok_iff.1 accepted

theorem parse_eq {parsed : Compilation} {program : Source.Program}
    (reached : Reaches selection platform file source .parse parsed)
    (there : parsed.program = some program) :
    ∃ found, (Buffer.ofString file source).tokens = .ok found ∧
      Source.derive found (Text.splitLines source) = .ok program := by
  cases reached with
  | parse reached accepted =>
      obtain rfl : _ = program := Option.some.inj there
      rw [Traced.outcome_eq (Source.Program.comesTo_ofLexed _ _ _)] at accepted
      exact ⟨_, reached.tokens_eq, accepted⟩

theorem named_eq {lowered : Compilation} {machine : Machine.Program}
    (reached : Reaches selection platform file source .codegen lowered)
    (there : lowered.machine = some machine) :
    ∃ found program, (Buffer.ofString file source).tokens = .ok found ∧
      Source.derive found (Text.splitLines source) = .ok program ∧
      program.named = .ok machine := by
  cases reached with
  | codegen reached program accepted =>
      obtain rfl : _ = machine := Option.some.inj there
      rw [outcome_ofTree] at accepted
      obtain ⟨found, lexed, parsed⟩ := reached.parse_eq program
      exact ⟨found, _, lexed, parsed, accepted⟩

end Reaches

/-! ## What a compilation does behind a stage -/

section Going

variable {stage : Stage}

theorem stopped_eq :
    stopped selection platform file source stage =
      staged { target := selection, stopAfter := some stage } platform file source :=
  Traced.outcome_eq (comesTo_compile _ _ _ _)

theorem stopped_of_target {target : Target}
    (resolved : Options.resolveTarget { target := selection } platform = .ok target) :
    stopped selection platform file source stage = (do
      let tokens ← (Buffer.ofString file source).lex.outcome.1
      Compilation.fromTokens
        { file, stopAfter := some stage, target, tokens, stage := some .lex }
        { target := selection, stopAfter := some stage } source) := by
  have resolved : Options.resolveTarget { target := selection, stopAfter := some stage } platform =
    .ok target := resolved
  rw [stopped_eq, staged, resolved, Traced.outcome_eq (Buffer.comesTo_lex _)]
  rfl

theorem stopped_of_lexed {lexed : Compilation}
    (reached : Reaches selection platform file source .lex lexed) :
    stopped selection platform file source stage =
      Compilation.fromTokens { lexed with stopAfter := some stage }
        { target := selection, stopAfter := some stage } source := by
  cases reached with
  | lex resolved accepted =>
      rw [stopped_of_target resolved, accepted]
      rfl

theorem stopped_of_parsed {parsed : Compilation} {program : Source.Program}
    (reached : Reaches selection platform file source .parse parsed)
    (there : parsed.program = some program) (later : .lex < stage) :
    stopped selection platform file source stage =
      Compilation.fromProgram { parsed with stopAfter := some stage }
        { target := selection, stopAfter := some stage } program := by
  cases reached with
  | parse reached accepted =>
      obtain rfl : _ = program := Option.some.inj there
      rw [Traced.outcome_eq (Source.Program.comesTo_ofLexed _ _ _)] at accepted
      rw [stopped_of_lexed reached, Compilation.fromTokens, if_neg (Stage.some_ne later), accepted]
      rfl

theorem stopped_of_lowered {lowered : Compilation} {machine : Machine.Program}
    (reached : Reaches selection platform file source .codegen lowered)
    (there : lowered.machine = some machine) (later : .parse < stage) :
    stopped selection platform file source stage =
      Compilation.fromMachine { lowered with stopAfter := some stage }
        { target := selection, stopAfter := some stage } machine := by
  cases reached with
  | codegen reached program accepted =>
      obtain rfl : _ = machine := Option.some.inj there
      rw [outcome_ofTree] at accepted
      rw [stopped_of_parsed reached program (Nat.lt_trans (by decide) later),
        Compilation.fromProgram, if_neg (Stage.some_ne later), accepted]
      rfl

end Going

/-! ## Where a compilation ends -/

theorem stopped_of_reaches {stage : Stage} {result : Compilation}
    (reached : Reaches selection platform file source stage result) :
    stopped selection platform file source stage = .ok { result with stopAfter := some stage } := by
  cases reached with
  | lex resolved accepted =>
      rw [stopped_of_lexed (.lex resolved accepted)]
      rfl
  | parse reached accepted =>
      rw [stopped_of_parsed (.parse reached accepted) rfl (by decide)]
      rfl
  | codegen reached there accepted =>
      rw [stopped_of_lowered (.codegen reached there accepted) rfl (by decide)]
      rfl
  | emit reached there emitted =>
      rw [stopped_of_lowered reached there (by decide), Compilation.fromMachine,
        if_neg (Stage.some_ne (by decide)), emitted]
      rfl

theorem stopped_of_breaks {origin : Option Stage} {failure : Failure}
    (broken : Breaks selection platform file source origin failure) {stage : Stage}
    (within : ∀ reached ∈ origin, reached ≤ stage) :
    stopped selection platform file source stage = .error failure := by
  cases broken with
  | target unresolved =>
      have unresolved :
          Options.resolveTarget { target := selection, stopAfter := some stage } platform =
            .error failure := unresolved
      rw [stopped_eq, staged, unresolved]
      rfl
  | lex resolved refused =>
      rw [stopped_of_target resolved, refused]
      rfl
  | parse reached refused =>
      have later : .lex < stage := within _ rfl
      rw [Traced.outcome_eq (Source.Program.comesTo_ofLexed _ _ _)] at refused
      rw [stopped_of_lexed reached, Compilation.fromTokens, if_neg (Stage.some_ne later), refused]
      rfl
  | codegen reached there refused =>
      have later : .parse < stage := within _ rfl
      rw [outcome_ofTree] at refused
      rw [stopped_of_parsed reached there (Nat.lt_trans (by decide) later),
        Compilation.fromProgram, if_neg (Stage.some_ne later), refused]
      rfl
  | emit reached there refused =>
      have later : .codegen < stage := within _ rfl
      rw [stopped_of_lowered reached there (Nat.lt_trans (by decide) later),
        Compilation.fromMachine, if_neg (Stage.some_ne later), refused]
      rfl

namespace Reaches

/-- Behind a stage the next one is completed, or breaks off. -/
theorem parse_or_breaks {lexed : Compilation}
    (reached : Reaches selection platform file source .lex lexed) :
    (∃ result, Reaches selection platform file source .parse result) ∨
      ∃ failure, Breaks selection platform file source (some .parse) failure := by
  cases parsed : (Source.Program.ofLexed lexed.tokens file (Text.splitLines source)).outcome.1 with
  | ok program => exact .inl ⟨_, .parse reached parsed⟩
  | error failure => exact .inr ⟨failure, .parse reached parsed⟩

theorem codegen_or_breaks {parsed : Compilation}
    (reached : Reaches selection platform file source .parse parsed) :
    (∃ result, Reaches selection platform file source .codegen result) ∨
      ∃ failure, Breaks selection platform file source (some .codegen) failure := by
  obtain ⟨program, there⟩ : ∃ program, parsed.program = some program := by
    cases reached
    exact ⟨_, rfl⟩
  cases lowered : (Machine.Program.ofTree program.toTree).outcome.1 with
  | ok machine => exact .inl ⟨_, .codegen reached there lowered⟩
  | error failure => exact .inr ⟨failure, .codegen reached there lowered⟩

theorem emit_or_breaks {lowered : Compilation}
    (reached : Reaches selection platform file source .codegen lowered) :
    (∃ result, Reaches selection platform file source .emit result) ∨
      ∃ failure, Breaks selection platform file source (some .emit) failure := by
  obtain ⟨machine, there⟩ : ∃ machine, lowered.machine = some machine := by
    cases reached
    exact ⟨_, rfl⟩
  cases emitted : machine.emit lowered.target with
  | ok assembly => exact .inl ⟨_, .emit reached there emitted⟩
  | error failure => exact .inr ⟨failure, .emit reached there emitted⟩

end Reaches

variable (selection platform file source) in
/-- A compilation completes a stage, or breaks off before or in it. -/
def Decided (stage : Stage) : Prop :=
  (∃ result, Reaches selection platform file source stage result) ∨
    ∃ origin failure, Breaks selection platform file source origin failure ∧
      ∀ broken ∈ origin, broken ≤ stage

theorem decided_lex : Decided selection platform file source .lex := by
  cases resolved : Options.resolveTarget { target := selection } platform with
  | error failure => exact .inr ⟨none, failure, .target resolved, fun _ member => nomatch member⟩
  | ok target =>
      cases lexed : (Buffer.ofString file source).lex.outcome.1 with
      | ok tokens => exact .inl ⟨_, .lex resolved lexed⟩
      | error failure =>
          refine .inr ⟨some .lex, failure, .lex resolved lexed, ?_⟩
          rintro _ ⟨⟩
          exact Nat.le_refl _

theorem Decided.next {early late : Stage} (decided : Decided selection platform file source early)
    (earlier : early ≤ late)
    (step : ∀ result, Reaches selection platform file source early result →
      (∃ result, Reaches selection platform file source late result) ∨
        ∃ failure, Breaks selection platform file source (some late) failure) :
    Decided selection platform file source late := by
  rcases decided with ⟨result, reached⟩ | ⟨origin, failure, broken, within⟩
  · rcases step result reached with further | ⟨failure, broken⟩
    · exact .inl further
    · refine .inr ⟨some late, failure, broken, ?_⟩
      rintro _ ⟨⟩
      exact Nat.le_refl _
  · refine .inr ⟨origin, failure, broken, ?_⟩
    intro stage member
    exact Nat.le_trans (within stage member) earlier

variable (selection platform file source) in
theorem decided (stage : Stage) : Decided selection platform file source stage := by
  have parse : Decided selection platform file source .parse :=
    decided_lex.next (by decide) fun _ reached => reached.parse_or_breaks
  have codegen : Decided selection platform file source .codegen :=
    parse.next (by decide) fun _ reached => reached.codegen_or_breaks
  cases stage with
  | lex => exact decided_lex
  | parse => exact parse
  | codegen => exact codegen
  | emit => exact codegen.next (by decide) fun _ reached => reached.emit_or_breaks

/-- What breaks off in a stage has completed all stages before it. -/
theorem Breaks.reaches {late : Stage} {failure : Failure}
    (broken : Breaks selection platform file source (some late) failure) {early : Stage}
    (earlier : early < late) : ∃ result, Reaches selection platform file source early result := by
  cases broken with
  | lex => cases early <;> exact absurd earlier (by decide)
  | parse reached _ | codegen reached _ _ | emit reached _ _ =>
      obtain ⟨part, done, -⟩ := reached.earlier (Nat.le_of_lt_succ earlier)
      exact ⟨part, done⟩

theorem reaches_of_stopped {stage : Stage} {result : Compilation}
    (returned : stopped selection platform file source stage = .ok result) :
    ∃ reached, Reaches selection platform file source stage reached ∧
      result = { reached with stopAfter := some stage } := by
  rcases decided selection platform file source stage with
    ⟨reached, done⟩ | ⟨origin, failure, broken, within⟩
  · rw [stopped_of_reaches done] at returned
    exact ⟨reached, done, (Except.ok.inj returned).symm⟩
  · rw [stopped_of_breaks broken within] at returned
    cases returned

theorem breaks_of_stopped {stage : Stage} {failure : Failure}
    (failed : stopped selection platform file source stage = .error failure) :
    ∃ origin, Breaks selection platform file source origin failure ∧
      ∀ broken ∈ origin, broken ≤ stage := by
  rcases decided selection platform file source stage with
    ⟨reached, done⟩ | ⟨origin, other, broken, within⟩
  · rw [stopped_of_reaches done] at failed
    cases failed
  · rw [stopped_of_breaks broken within] at failed
    cases failed
    exact ⟨origin, broken, within⟩

theorem stopped_eq_upTo {stage : Stage} {result : Compilation}
    (reached : Reaches selection platform file source stage result) :
    stopped selection platform file source stage = .ok (result.upTo stage) := by
  rw [stopped_of_reaches reached, reached.upTo_self]

end Relations

/-- If a compilation succeeds, stopping it early yields the part that is complete by then. If it fails,
    stopping it early fails in the same way just if the failure comes from no later stage; otherwise
    it succeeds. -/
theorem stopped_early_upTo (selection : Option String) (platform file source : String)
    {early late : Stage} (earlier : early < late) :
    (∀ result, stopped selection platform file source late = .ok result →
      stopped selection platform file source early = .ok (result.upTo early) ∧
      (result.upTo early).success = true) ∧
    ∀ failure, stopped selection platform file source late = .error failure →
      (∃ origin, Breaks selection platform file source origin failure) ∧
      ∀ origin, Breaks selection platform file source origin failure →
        ((∀ broken ∈ origin, broken ≤ early) →
          stopped selection platform file source early = .error failure) ∧
        ((∃ broken ∈ origin, early < broken) →
          ∃ result, stopped selection platform file source early = .ok result ∧
            result.success = true) := by
  refine ⟨?_, ?_⟩
  · intro result returned
    obtain ⟨reached, done, rfl⟩ := reaches_of_stopped returned
    obtain ⟨part, begun, same⟩ := done.earlier (Nat.le_of_lt earlier)
    refine ⟨?_, Compilation.success_upTo _ _⟩
    rw [stopped_eq_upTo begun, same]
    rfl
  · intro failure failed
    obtain ⟨origin, broken, -⟩ := breaks_of_stopped failed
    refine ⟨⟨origin, broken⟩, ?_⟩
    intro origin broken
    refine ⟨stopped_of_breaks broken, ?_⟩
    rintro ⟨stage, rfl, later⟩
    obtain ⟨part, begun⟩ := broken.reaches later
    exact ⟨_, stopped_eq_upTo begun, Compilation.success_upTo _ _⟩

/-- A lone semicolon is one token and no program. -/
theorem stopped_early_upTo_semicolon :
    Stage.lex < Stage.emit ∧
    ∃ failure, Breaks (some "linux") "linux" "a.c" ";" (some .parse) failure ∧
      stopped (some "linux") "linux" "a.c" ";" .emit = .error failure ∧
      ∃ result, stopped (some "linux") "linux" "a.c" ";" .lex = .ok result ∧
        result.success = true := by
  let token : Token := { kind := .semicolon, location := some ⟨"a.c", 1, 1⟩ }
  have accepted : (Buffer.ofString "a.c" ";").lex.outcome.1 = .ok [token] := by
    rw [Buffer.lex_eq_ok_iff]
    exact eq_ok_of_toOption (by decide +kernel)
  have broken : Breaks (some "linux") "linux" "a.c" ";" (some .parse) _ :=
    .parse (.lex rfl accepted) rfl
  have failed : stopped (some "linux") "linux" "a.c" ";" .emit = .error _ :=
    stopped_of_breaks broken (by decide)
  obtain ⟨-, fails⟩ :=
    @stopped_early_upTo (some "linux") "linux" "a.c" ";" .lex .emit (by decide)
  obtain ⟨-, origins⟩ := fails _ failed
  exact ⟨by decide, _, broken, failed, (origins _ broken).2 ⟨.parse, rfl, by decide⟩⟩

end MicroC
