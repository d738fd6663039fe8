import MicroC.Proofs.Reaching
import MicroC.Proofs.Settlement

/-! # What arguments ask for

Whatever reads the arguments, the values that it accepts select a stage to stop after and a target. The
standard reader accepts valid arguments and no others: they name one input, which is a file that may be
read, an output, which is no directory and may be read if it is there, and a known target if they name
any.

Main statements: `options_eq_ordered`, what accepted values select, and `run_standardReader_eq_ok_iff`,
what the standard reader accepts.
-/

namespace MicroC.CommandLine

/-! ## What accepted values select -/

namespace Parameters

/-- The stages after which a stop is asked for; all compilations end with the last. -/
def Requests (parameters : Parameters) : Stage → Prop
  | .lex => parameters.lex = true
  | .parse => parameters.parse = true
  | .codegen => parameters.codegen = true
  | .emit => True

/-- The earliest stage that is requested. It is the last stage if no option names one. -/
def StopsAt (parameters : Parameters) (stage : Stage) : Prop :=
  parameters.Requests stage ∧ ∀ other, parameters.Requests other → stage ≤ other

theorem stopsAt_earliest (parameters : Parameters) :
    parameters.StopsAt (Stage.earliest parameters.lex parameters.parse parameters.codegen) := by
  by_cases lex : parameters.lex = true
  · rw [Stage.earliest, if_pos lex]
    exact ⟨lex, fun other _ => by cases other <;> decide⟩
  by_cases parse : parameters.parse = true
  · rw [Stage.earliest, if_neg lex, if_pos parse]
    refine ⟨parse, fun other requested => ?_⟩
    cases other with
    | lex => exact absurd requested lex
    | parse | codegen | emit => decide
  by_cases codegen : parameters.codegen = true
  · rw [Stage.earliest, if_neg lex, if_neg parse, if_pos codegen]
    refine ⟨codegen, fun other requested => ?_⟩
    cases other with
    | lex => exact absurd requested lex
    | parse => exact absurd requested parse
    | codegen | emit => decide
  · rw [Stage.earliest, if_neg lex, if_neg parse, if_neg codegen]
    refine ⟨trivial, fun other requested => ?_⟩
    cases other with
    | lex => exact absurd requested lex
    | parse => exact absurd requested parse
    | codegen => exact absurd requested codegen
    | emit => decide

theorem StopsAt.eq {parameters : Parameters} {one two : Stage} (first : parameters.StopsAt one)
    (second : parameters.StopsAt two) : one = two :=
  Stage.number_injective (Nat.le_antisymm (first.2 two second.1) (second.2 one first.1))

/-- The target, if any, goes by the name of a known one. -/
def TargetKnown (parameters : Parameters) : Prop :=
  ∀ name, parameters.target = some name → name = "darwin" ∨ name = "linux"

end Parameters

namespace Surroundings

/-- The target that is selected: the one that the arguments name, or else the one that the environment
    names. If neither names one, it is the host's. -/
def selection (surroundings : Surroundings) (parameters : Parameters) : Option String :=
  parameters.target <|> (surroundings.setting? "SUBC_TARGET").filter (· ≠ "")

/-- The options of the compilation that is asked for. -/
def ordered (surroundings : Surroundings) (parameters : Parameters) (stage : Stage) : Options where
  target := surroundings.selection parameters
  stopAfter := some stage
  debug := Options.isOn ((surroundings.setting? "SUBC_DEBUG").getD "") || parameters.debug

end Surroundings

theorem stated?_eq_filter (text : Option String) :
    Problem.stated? text = text.filter (· ≠ "") := by
  cases text with
  | none => rfl
  | some text =>
      by_cases empty : text = ""
      · subst empty
        rfl
      · rw [Option.filter_some_pos (by simpa using empty)]
        simp [Problem.stated?, empty]

theorem options_eq_ordered {parameters : Parameters} {stage : Stage} (known : parameters.TargetKnown)
    (stops : parameters.StopsAt stage) (surroundings : Surroundings) :
    surroundings.options parameters = surroundings.ordered parameters stage := by
  obtain rfl := stops.eq parameters.stopsAt_earliest
  have named : Problem.stated? parameters.target = parameters.target := by
    cases chosen : parameters.target with
    | none => rfl
    | some name => rcases known name chosen with rfl | rfl <;> rfl
  rw [Surroundings.options, named, Surroundings.ordered, Surroundings.selection, ← stated?_eq_filter]
  rfl

/-! ## Options that are given -/

namespace Arguments

/-- The arguments ask for the help or the version. -/
def Shows (given : Arguments) : Prop :=
  given.has .help = true ∨ given.has .version = true

instance (given : Arguments) : Decidable given.Shows :=
  inferInstanceAs (Decidable (_ ∨ _))

/-- A path may be named as the output: it leads to a file that may be read, or to nothing. -/
def FreeFor (status : Statuses) (output : String) : Prop :=
  status output = .ok .file ∨ ∃ fault, status output = .error (.file fault)

/-- The arguments are valid, with these paths for input and output. -/
structure Valid (given : Arguments) (status : Statuses) (input output : String) : Prop where
  input_eq : given.positional = [input]
  input_file : status input = .ok .file
  output_eq : given.value? .output = some output
  output_free : FreeFor status output
  target_known : ∀ name ∈ given.value? .target, Target.foldName name ∈ ["darwin", "linux"]

theorem mem_foldl_insert {switch : Switch} (switches seen : List Switch) :
    switch ∈ switches.foldl (fun seen switch => if switch ∈ seen then seen else seen ++ [switch])
        seen ↔ switch ∈ seen ∨ switch ∈ switches := by
  induction switches generalizing seen with
  | nil => simp
  | cons first rest ih =>
      rw [List.foldl_cons, ih]
      grind

theorem mem_switches {given : Arguments} {switch : Switch} :
    switch ∈ given.switches ↔ given.has switch = true := by
  rw [switches, mem_foldl_insert, has, List.any_eq_true]
  simp

theorem mem_switches_of_value? {given : Arguments} {switch : Switch} {value : String}
    (found : given.value? switch = some value) : switch ∈ given.switches := by
  obtain ⟨last, first, -⟩ := Option.bind_eq_some_iff.1 found
  have same := List.find?_some first
  have member := List.mem_of_find?_eq_some first
  rw [mem_switches, has, List.any_eq_true]
  exact ⟨last, List.mem_reverse.1 member, same⟩

theorem findSome?_shownBy?_eq_none_iff {given : Arguments} :
    given.switches.findSome? shownBy? = none ↔ ¬ given.Shows := by
  rw [List.findSome?_eq_none_iff]
  constructor
  · rintro hidden (help | version)
    · cases hidden _ (mem_switches.2 help)
    · cases hidden _ (mem_switches.2 version)
  · intro quiet switch member
    rw [mem_switches] at member
    cases switch with
    | help => exact absurd (.inl member) quiet
    | version => exact absurd (.inr member) quiet
    | _ => rfl

/-! ## Checks -/

theorem checkPath_required_iff {status : Statuses} {parameter : PathParameter} {path : String} :
    checkPath status parameter true path = .ok () ↔ status path = .ok .file := by
  unfold checkPath
  cases status path with
  | ok kind => cases kind <;> simp [complain]
  | error failure => cases failure <;> simp [complain]

theorem checkPath_free_iff {status : Statuses} {parameter : PathParameter} {path : String} :
    checkPath status parameter false path = .ok () ↔ FreeFor status path := by
  unfold checkPath FreeFor
  cases status path with
  | ok kind => cases kind <;> simp [complain]
  | error failure => cases failure <;> simp

theorem forM_eq_ok_iff {ε α : Type} {action : α → Except ε Unit} {items : List α} :
    items.forM action = .ok () ↔ ∀ item ∈ items, action item = .ok () := by
  induction items with
  | nil => simp [pure, Except.pure]
  | cons item rest ih =>
      change (action item >>= fun _ => rest.forM action) = .ok () ↔ _
      rw [bind_eq_ok_iff, List.forall_mem_cons, ← ih]
      constructor
      · rintro ⟨⟨⟩, first, others⟩
        exact ⟨first, others⟩
      · rintro ⟨first, others⟩
        exact ⟨(), first, others⟩

theorem isSome_find?_iff {name : String} :
    (Target.find? name).isSome = true ↔ Target.foldName name ∈ ["darwin", "linux"] := by
  rw [Target.find?, List.find?_isSome]
  generalize Target.foldName name = folded
  simp only [Target.known, Target.darwin, Target.linux, List.mem_cons, List.not_mem_nil, or_false,
    exists_eq_or_imp, exists_eq_left, beq_iff_eq, @eq_comm _ folded]

theorem checkSwitch_target_iff {status : Statuses} {given : Arguments} {name : String}
    (found : given.value? .target = some name) :
    checkSwitch status given .target = .ok () ↔ Target.foldName name ∈ ["darwin", "linux"] := by
  rw [← isSome_find?_iff]
  simp only [checkSwitch, found]
  cases Target.find? name with
  | none => simp [complain]
  | some target => exact ⟨fun _ => rfl, fun _ => rfl⟩

theorem checkInput_eq_ok_iff {status : Statuses} {positional : List String} {input : String} :
    checkInput status positional = .ok input ↔
      positional.head? = some input ∧ status input = .ok .file := by
  cases positional with
  | nil => exact ⟨nofun, nofun⟩
  | cons path rest =>
      simp only [checkInput]
      rw [bind_eq_ok_iff]
      constructor
      · rintro ⟨⟨⟩, checked, same⟩
        cases same
        exact ⟨rfl, checkPath_required_iff.1 checked⟩
      · rintro ⟨first, there⟩
        cases first
        exact ⟨(), checkPath_required_iff.2 there, rfl⟩

/-- All options that are given pass just if the output and the target do. -/
theorem forM_checkSwitch_eq_ok_iff {status : Statuses} {given : Arguments} {output : String}
    (found : given.value? .output = some output) :
    given.switches.forM (checkSwitch status given) = .ok () ↔
      FreeFor status output ∧
      ∀ name ∈ given.value? .target, Target.foldName name ∈ ["darwin", "linux"] := by
  have checked : checkSwitch status given .output = checkPath status .output false output := by
    simp only [checkSwitch, found]
  rw [forM_eq_ok_iff]
  constructor
  · intro all
    have free := all _ (mem_switches_of_value? found)
    rw [checked, checkPath_free_iff] at free
    refine ⟨free, fun name named => ?_⟩
    exact (checkSwitch_target_iff named).1 (all _ (mem_switches_of_value? named))
  · rintro ⟨free, known⟩ switch -
    -- Only two of the options have anything to check.
    cases switch with
    | output => rw [checked, checkPath_free_iff.2 free]
    | target =>
        cases named : given.value? .target with
        | none => simp only [checkSwitch, named]
        | some name => exact (checkSwitch_target_iff named).2 (known name named)
    | _ => rfl

/-- The arguments that ask for a compilation, and the values that they give it. -/
theorem request_eq_compile_iff {status : Statuses} {given : Arguments} {parameters : Parameters} :
    given.request status = .ok (.compile parameters) ↔
      ¬ given.Shows ∧ given.Valid status parameters.input parameters.output ∧
        parameters = given.parameters parameters.input parameters.output := by
  unfold request
  cases shown : given.switches.findSome? shownBy? with
  | some text =>
      refine ⟨nofun, fun asked => ?_⟩
      rw [findSome?_shownBy?_eq_none_iff.2 asked.1] at shown
      cases shown
  | none =>
      have quiet := findSome?_shownBy?_eq_none_iff.1 shown
      dsimp only
      constructor
      · intro asked
        -- The options are checked first, then the input, then what is missing or too much.
        obtain ⟨⟨⟩, switched, asked⟩ := bind_eq_ok_iff.1 asked
        obtain ⟨path, checked, asked⟩ := bind_eq_ok_iff.1 asked
        obtain ⟨first, isFile⟩ := checkInput_eq_ok_iff.1 checked
        cases named : given.value? .output with
        | none =>
            rw [named] at asked
            cases asked
        | some goal =>
            obtain ⟨free, known⟩ := (forM_checkSwitch_eq_ok_iff named).1 switched
            rw [named] at asked
            cases rest : given.positional.drop 1 with
            | cons extra more =>
                rw [rest] at asked
                cases asked
            | nil =>
                rw [rest] at asked
                cases asked
                obtain ⟨tail, single⟩ := List.head?_eq_some_iff.1 first
                obtain rfl : tail = [] := by rwa [single] at rest
                exact ⟨quiet, ⟨single, isFile, named, free, known⟩, rfl⟩
      · rintro ⟨-, valid, same⟩
        have switched := (forM_checkSwitch_eq_ok_iff valid.output_eq).2
          ⟨valid.output_free, valid.target_known⟩
        have checked : checkInput status given.positional = .ok parameters.input := by
          rw [valid.input_eq]
          exact checkInput_eq_ok_iff.2 ⟨rfl, valid.input_file⟩
        refine bind_eq_ok_iff.2 ⟨(), switched, bind_eq_ok_iff.2 ⟨_, checked, ?_⟩⟩
        rw [valid.output_eq, valid.input_eq]
        exact congrArg (Except.ok ∘ Request.compile) same.symm

theorem targetKnown_parameters (given : Arguments) (input output : String) :
    (given.parameters input output).TargetKnown := by
  intro name named
  obtain ⟨target, found, rfl⟩ := Option.map_eq_some_iff.1 named
  obtain ⟨wanted, -, found⟩ := Option.bind_eq_some_iff.1 found
  have member := List.mem_of_find?_eq_some found
  simp only [Target.known, List.mem_cons, List.not_mem_nil, or_false] at member
  exact member.imp (congrArg Target.name) (congrArg Target.name)

end Arguments

/-! ## Readers -/

/-- What is asked of something that reads arguments: it leaves the files as they are, and takes only the
    name of a known target for a target. -/
structure Reader.Lawful {σ : Type} (reader : Reader (StateM σ)) : Prop where
  unchanged : ∀ arguments files, ((reader arguments).run files).2 = files
  target_known : ∀ arguments files parameters,
    ((reader arguments).run files).1 = .ok (.compile parameters) → parameters.TargetKnown

section Standard

variable {σ : Type} (system : FileSystem σ)

/-- The standard reader accepts valid arguments, and no others. -/
theorem run_standardReader_eq_ok_iff {arguments : List String} {files : σ}
    {parameters : Parameters} :
    ((standardReader system.access arguments).run files).1 = .ok (.compile parameters) ↔
      ∃ given, Arguments.read arguments = .ok given ∧ ¬ given.Shows ∧
        given.Valid (system.status files) parameters.input parameters.output ∧
        parameters = given.parameters parameters.input parameters.output := by
  cases sorted : Arguments.read arguments with
  | error fault =>
      rw [run_standardReader_of_error sorted]
      constructor
      · intro accepted
        cases accepted
      · rintro ⟨given, same, -⟩
        cases same
  | ok given =>
      rw [run_standardReader_of_ok sorted]
      simp only [Arguments.request_eq_compile_iff, Except.ok.injEq, exists_eq_left']

theorem lawful_standardReader : Reader.Lawful (standardReader system.access) where
  unchanged arguments files := by
    obtain ⟨answer, answered⟩ := @exists_run_standardReader _ system files arguments
    rw [answered]
  target_known arguments files parameters accepted := by
    obtain ⟨given, -, -, -, same⟩ := (run_standardReader_eq_ok_iff system).1 accepted
    rw [same]
    exact given.targetKnown_parameters _ _

end Standard

end MicroC.CommandLine
