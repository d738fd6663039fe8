import MicroC.Compilation

/-! # Outcomes without the log

No stage of a compilation reads the log. `ComesTo` states the outcome of a computation whatever was
logged before it, and composes along a pipeline, so that a compilation is the plain sequence of its
stages.
-/

namespace MicroC

/-- The outcome of a computation, whatever state it starts from. -/
def ComesTo (computation : ExceptT Failure (StateM σ) α) (outcome : Except Failure α) : Prop :=
  ∀ state, (computation.run.run state).1 = outcome

namespace ComesTo

theorem bind {computation : ExceptT Failure (StateM σ) α} {next : α → ExceptT Failure (StateM σ) β}
    {outcome : Except Failure α} {later : α → Except Failure β} (first : ComesTo computation outcome)
    (second : ∀ value, ComesTo (next value) (later value)) :
    ComesTo (computation >>= next) (outcome >>= later) := by
  intro state
  have step := first state
  change (ExceptT.bindCont next (computation.run.run state).1 |>.run
    (computation.run.run state).2).1 = _
  rw [step]
  cases outcome with
  | error failure => rfl
  | ok value => exact second value _

theorem ite {condition : Prop} [Decidable condition] {one two : ExceptT Failure (StateM σ) α}
    {first second : Except Failure α} (yes : ComesTo one first) (no : ComesTo two second) :
    ComesTo (if condition then one else two) (if condition then first else second) := by
  split
  · exact yes
  · exact no

/-- Something may be done before going on. -/
theorem when {condition : Prop} [Decidable condition] {action : ExceptT Failure (StateM σ) Unit}
    {next : Unit → ExceptT Failure (StateM σ) α} {outcome : Except Failure Unit}
    {later : Except Failure α} (first : ComesTo action outcome) (second : ComesTo (next ()) later) :
    ComesTo (if condition then action >>= next else next ())
      ((if condition then outcome else .ok ()) >>= fun _ => later) := by
  split
  · exact first.bind fun _ => second
  · exact second

theorem whenOk {condition : Prop} [Decidable condition] {action : ExceptT Failure (StateM σ) Unit}
    {next : Unit → ExceptT Failure (StateM σ) α} {later : Except Failure α}
    (first : ComesTo action (.ok ())) (second : ComesTo (next ()) later) :
    ComesTo (if condition then action >>= next else next ()) later := by
  split
  · exact first.bind fun _ => second
  · exact second

end ComesTo

namespace Traced

theorem comesTo_ofExcept (outcome : Except Failure α) : ComesTo (ofExcept outcome) outcome :=
  fun _ => rfl

theorem comesTo_note (channel : Log.Channel) (message : String) :
    ComesTo (note channel message) (.ok ()) :=
  fun _ => rfl

theorem comesTo_pure (value : α) : ComesTo (pure value : Traced α) (.ok value) :=
  fun _ => rfl

/-- Logging a result does not change it. -/
theorem comesTo_noted {computation : Traced α} {outcome : Except Failure α}
    (first : ComesTo computation outcome) (channel : Log.Channel) (message : α → String) :
    ComesTo (do let value ← computation
                note channel (message value)
                return value) outcome := by
  have run := first.bind fun value =>
    (comesTo_note channel (message value)).bind fun _ => comesTo_pure value
  cases outcome <;> exact run

theorem outcome_eq {computation : Traced α} {outcome : Except Failure α}
    (comes : ComesTo computation outcome) : computation.outcome.1 = outcome :=
  comes []

end Traced

theorem bind_eq_ok_iff {computation : Except ε α} {next : α → Except ε β} {result : β} :
    (computation >>= next) = .ok result ↔
      ∃ value, computation = .ok value ∧ next value = .ok result := by
  cases computation with
  | error fault => exact iff_of_false nofun fun ⟨_, ok, _⟩ => nomatch ok
  | ok value => exact ⟨fun later => ⟨value, rfl, later⟩, fun ⟨_, rfl, later⟩ => later⟩

theorem bind_eq_error_iff {computation : Except ε α} {next : α → Except ε β} {fault : ε} :
    (computation >>= next) = .error fault ↔
      computation = .error fault ∨ ∃ value, computation = .ok value ∧ next value = .error fault := by
  cases computation with
  | error other =>
      constructor
      · rintro ⟨⟩
        exact .inl rfl
      · rintro (here | ⟨_, ok, _⟩)
        · cases here
          rfl
        · cases ok
  | ok value =>
      constructor
      · intro later
        exact .inr ⟨value, rfl, later⟩
      · rintro (here | ⟨_, ok, later⟩)
        · cases here
        · cases ok
          exact later

theorem bind_congr_ok {computation : Except ε α} {next other : α → Except ε β}
    (same : ∀ value, computation = .ok value → next value = other value) :
    computation >>= next = computation >>= other := by
  cases computation with
  | error fault => rfl
  | ok value => exact same value rfl

theorem eq_ok_of_toOption {computation : Except ε α} {value : α}
    (found : computation.toOption = some value) : computation = .ok value := by
  cases computation with
  | error fault => cases found
  | ok other => exact congrArg Except.ok (Option.some.inj found)

theorem map_eq_ok_iff {computation : Except ε α} {f : α → β} {result : β} :
    computation.map f = .ok result ↔ ∃ value, computation = .ok value ∧ f value = result := by
  cases computation <;> simp [Except.map]

theorem mapError_eq_ok_iff {computation : Except ε α} {rename : ε → ε'} {result : α} :
    computation.mapError rename = .ok result ↔ computation = .ok result := by
  cases computation with
  | error fault => exact iff_of_false nofun nofun
  | ok value => exact ⟨fun | rfl => rfl, fun | rfl => rfl⟩

open Traced

theorem Buffer.comesTo_lex (buffer : Buffer) :
    ComesTo buffer.lex (buffer.tokens.mapError Failure.diagnosed) := by
  unfold lex
  exact comesTo_noted (comesTo_ofExcept _) _ _

theorem Buffer.lex_eq_ok_iff {buffer : Buffer} {tokens : List Token} :
    buffer.lex.outcome.1 = .ok tokens ↔ buffer.tokens = .ok tokens := by
  rw [outcome_eq buffer.comesTo_lex, mapError_eq_ok_iff]

theorem Buffer.lex_eq_error_iff {buffer : Buffer} {failure : Failure} :
    buffer.lex.outcome.1 = .error failure ↔
      ∃ diagnostic, buffer.tokens = .error diagnostic ∧ failure = .diagnosed diagnostic := by
  rw [outcome_eq buffer.comesTo_lex]
  cases buffer.tokens with
  | error diagnostic =>
      constructor
      · rintro ⟨⟩
        exact ⟨diagnostic, rfl, rfl⟩
      · rintro ⟨_, ⟨⟩, rfl⟩
        rfl
  | ok tokens => exact iff_of_false nofun nofun

theorem Source.Program.comesTo_ofLexed (tokens : List Token) (file : String) (lines : List String) :
    ComesTo (ofLexed tokens file lines) (derive tokens lines) := by
  unfold ofLexed logged
  exact comesTo_noted (comesTo_ofExcept _) _ _

theorem Machine.Program.comesTo_ofTree (tree : Tree) :
    ComesTo (ofTree tree) (do
      let program ← tree.lower
      let _ ← program.function.name.sentence
      return program) := by
  unfold ofTree
  refine (comesTo_ofExcept _).bind fun program => (comesTo_ofExcept _).bind fun name => ?_
  exact (comesTo_note _ _).bind fun _ => comesTo_pure program

/-- Compiling to assembly is one stage after the other. -/
theorem assemble_eq (selection : Option String) (platform file source : String) :
    assemble selection platform file source = (do
      let target ← Options.resolveTarget { target := selection } platform
      let tokens ← (Buffer.ofString file source).tokens.mapError Failure.diagnosed
      let program ← Source.derive tokens (Text.splitLines source)
      let machine ← program.lower
      let _ ← machine.function.name.sentence
      machine.emit target) := by
  have staged : ComesTo (compile { target := selection } platform file source) (do
      let target ← Options.resolveTarget { target := selection } platform
      let tokens ← (Buffer.ofString file source).tokens.mapError Failure.diagnosed
      let program ← Source.derive tokens (Text.splitLines source)
      let machine ← (do
        let machine ← program.lower
        let _ ← machine.function.name.sentence
        return machine)
      let assembly ← machine.emit target
      return { file, stopAfter := some .emit, target, tokens, program := some program,
               machine := some machine, assembly, stage := some .emit }) := by
    unfold compile
    refine (comesTo_ofExcept _).bind fun target => ?_
    refine (Buffer.comesTo_lex _).bind fun tokens => ?_
    refine (Source.Program.comesTo_ofLexed _ _ _).bind fun program => ?_
    refine (Machine.Program.comesTo_ofTree _).bind fun machine => ?_
    refine (comesTo_ofExcept _).bind fun assembly => ?_
    exact (comesTo_note _ _).bind fun _ => comesTo_pure _
  rw [assemble, outcome_eq staged]
  change Compilation.assembly <$> (_ : Except Failure Compilation) = _
  simp only [map_bind, bind_assoc, map_pure, pure_bind, bind_pure]

end MicroC
