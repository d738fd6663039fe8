import MicroC.Proofs.DebugOption
import MicroC.Proofs.Dump
import MicroC.Proofs.Lowered
import MicroC.Proofs.Settlement

/-! # Debug mode

Debug mode adds dumps to a compilation. Tokens and source programs can always be dumped. A machine
program cannot if its number is too long to be written, and then assembly cannot be written either.
So debug mode changes an outcome just if the compilation was to stop between the two.
-/

namespace MicroC

/-- A text spells a program whose constant can be read and is too long to be written in decimal.
    Only octal constants are: decimal ones of that length cannot be read. -/
def Oversized (source : List Char) : Prop :=
  ∃ name constant, ProgramText name constant source ∧ constant.toList.head? = some '0' ∧
    10 ^ 4300 ≤ constantValue constant.toList

/-- A compilation that succeeds, and fails if its machine program is to be dumped. -/
structure Options.FailsToDump (options : Options) (platform source : String) : Prop where
  stops : options.stopAfter = some .codegen
  resolves : ∃ target, options.resolveTarget platform = .ok target
  oversized : Oversized source.toList

/-! ## Numbers that cannot be written -/

theorem constantValue_zeros (zeros : Nat) :
    constantValue ('0' :: '1' :: List.replicate zeros '0') = 8 ^ zeros := by
  have base : constantBase ('0' :: '1' :: List.replicate zeros '0') = 8 := if_pos ⟨rfl, by simp⟩
  have digits :
      ('0' :: '1' :: List.replicate zeros '0').reverse.map (fun c => c.toNat - '0'.toNat) =
        List.replicate zeros 0 ++ [1, 0] := by
    simp
  have first : Nat.ofDigits 8 [1, 0] = 1 := by decide
  rw [constantValue, base, digitsValue, digits, Nat.ofDigits_append, Nat.ofDigits_replicate_zero,
    List.length_replicate, first, Nat.zero_add, Nat.mul_one]

-- The exponents are variables so that no power is evaluated.
theorem ten_pow_le_eight_pow {tens eights count : Nat} (short : tens = 43 * count)
    (long : eights = 48 * count) : 10 ^ tens ≤ 8 ^ eights := by
  rw [short, long, Nat.pow_mul, Nat.pow_mul]
  exact Nat.pow_le_pow_left (by decide) count

theorem oversized_of_zeros {zeros : Nat} (large : 10 ^ 4300 ≤ 8 ^ zeros) :
    Oversized
      ("int f(void)\x7breturn 01".toList ++ List.replicate zeros '0' ++ ";\x7d".toList) := by
  let constant := String.ofList ('0' :: '1' :: List.replicate zeros '0')
  have spelled : constant.toList = '0' :: '1' :: List.replicate zeros '0' := String.toList_ofList
  have digits : IsConstant constant.toList := by
    rw [spelled]
    refine .inl ⟨rfl, List.forall_mem_cons.2 ⟨by decide, fun c member => ?_⟩⟩
    rw [List.eq_of_mem_replicate member]
    decide
  refine ⟨"f", constant, ?_, by rw [spelled]; rfl, by rwa [spelled, constantValue_zeros]⟩
  have written := programText_returning digits
  rw [spelled] at written
  simpa using written

/-! ## From the machine program on -/

section Machine

variable {options : Options} {lowered : Compilation} {name : String}

theorem dumped_returning (value : Int) :
    dumped { options with debug := true } .machine (Machine.Program.returning name value).toTree =
      ((Numeral.write value).mapError Failure.numeral).map fun _ => () :=
  Outline.map_outline_returning name value

theorem fromMachine_of_small {value : Nat} (small : value < 10 ^ 4300) :
    lowered.fromMachine { options with debug := true } (.returning name value) =
      lowered.fromMachine { options with debug := false } (.returning name value) := by
  have written : Numeral.write value = .ok (toString value) :=
    Numeral.write_natCast_eq_ok_iff.2 ⟨small, rfl⟩
  rw [Compilation.fromMachine, dumped_returning, written]
  rfl

theorem fromMachine_of_goesOn (value : Int) (nonempty : name ≠ "")
    (goesOn : options.stopAfter ≠ some .codegen) :
    lowered.fromMachine { options with debug := true } (.returning name value) =
      lowered.fromMachine { options with debug := false } (.returning name value) := by
  rw [Compilation.fromMachine, Compilation.fromMachine, dumped_returning, if_neg goesOn,
    Machine.Program.emit_returning _ _ nonempty]
  cases Numeral.write value <;> rfl

theorem fromMachine_of_large {value : Nat} (large : 10 ^ 4300 ≤ value)
    (stops : options.stopAfter = some .codegen) :
    lowered.fromMachine { options with debug := true } (.returning name value) =
        .error (.numeral .tooLarge) ∧
      lowered.fromMachine { options with debug := false } (.returning name value) =
        .ok lowered := by
  rw [Compilation.fromMachine, Compilation.fromMachine, dumped_returning, if_pos stops,
    Numeral.write_natCast_of_le large]
  exact ⟨rfl, rfl⟩

end Machine

/-! ## Whole compilations -/

section Staged

variable {options : Options} {platform file source : String}

theorem staged_debug_of_dumps (dumps : ¬ options.FailsToDump platform source) :
    staged { options with debug := true } platform file source =
      staged { options with debug := false } platform file source := by
  -- Both go through the same stages, and the first dump that can fail is that of the machine program.
  unfold staged
  apply bind_congr_ok
  intro target resolved
  apply bind_congr_ok
  intro found accepted
  rw [mapError_eq_ok_iff] at accepted
  unfold Compilation.fromTokens
  apply ite_congr rfl (fun _ => rfl)
  intro _
  apply bind_congr_ok
  intro program parsed
  unfold Compilation.fromProgram
  rw [dumped_program, dumped_program]
  change ite _ _ _ = ite _ _ _
  apply ite_congr rfl (fun _ => rfl)
  intro _
  apply bind_congr_ok
  intro machine lowered
  obtain ⟨name, constant, written, rfl, fits⟩ := exists_returning accepted parsed lowered
  obtain ⟨named, digits⟩ := written.lexemes
  by_cases stops : options.stopAfter = some .codegen
  · apply fromMachine_of_small
    by_contra small
    have large := Nat.not_lt.1 small
    have zero := zero_of_large digits fits large
    exact dumps ⟨stops, ⟨target, resolved⟩, name, constant, written, zero, large⟩
  · -- What cannot be dumped cannot be written as assembly either, and fails in the same way.
    exact fromMachine_of_goesOn _ named.ne_empty stops

theorem staged_of_stops {target : Target} {found : List Token} {program : Source.Program}
    {machine : Machine.Program} (stops : options.stopAfter = some .codegen)
    (resolved : options.resolveTarget platform = .ok target)
    (accepted : (Buffer.ofString file source).tokens = .ok found)
    (parsed : Source.derive found (Text.splitLines source) = .ok program)
    (lowered : program.named = .ok machine) :
    staged options platform file source =
      Compilation.fromMachine
        { file, stopAfter := options.stopAfter, target, tokens := found, program := some program,
          machine := some machine, stage := some .codegen } options machine := by
  have later : options.stopAfter ≠ some .lex ∧ options.stopAfter ≠ some .parse := by
    rw [stops]
    decide
  rw [staged, resolved, accepted]
  change Compilation.fromTokens _ _ _ = _
  rw [Compilation.fromTokens, if_neg later.1, parsed]
  change Compilation.fromProgram _ _ _ = _
  rw [Compilation.fromProgram, dumped_program, if_neg later.2, lowered]
  rfl

theorem staged_of_failsToDump (fails : options.FailsToDump platform source) :
    staged { options with debug := true } platform file source = .error (.numeral .tooLarge) ∧
      ∃ compilation, staged { options with debug := false } platform file source = .ok compilation ∧
        compilation.stage = some .codegen ∧ compilation.success := by
  obtain ⟨stops, ⟨target, resolved⟩, name, constant, written, zero, large⟩ := fails
  obtain ⟨found, accepted, same⟩ := (programText_iff_tokens (Buffer.ofString file source)).1 written
  have parsed : Source.derive found (Text.splitLines source) = .ok (.ofPhrase found) :=
    Source.derive_eq_ok_iff.2 ⟨kinds_of_programTokens same, rfl⟩
  have lowered : (Source.Program.ofPhrase found).named =
      .ok (.returning name (constantValue constant.toList : Nat)) := by
    rw [named_ofPhrase same, Numeral.read_constant written.lexemes.2,
      if_neg (fits_of_zero zero)]
    rfl
  have loud := @staged_of_stops { options with debug := true } platform file source _ _ _ _ stops
    resolved accepted parsed lowered
  have quiet := @staged_of_stops { options with debug := false } platform file source _ _ _ _ stops
    resolved accepted parsed lowered
  refine ⟨loud.trans (fromMachine_of_large large stops).1, _,
    quiet.trans (fromMachine_of_large large stops).2, rfl, ?_⟩
  simp [Compilation.success, stops]

end Staged

theorem compile_debug_of_dumps {options : Options} {platform source : String}
    (dumps : ¬ options.FailsToDump platform source) (file : String) :
    (compile { options with debug := true } platform file source).outcome.1 =
      (compile { options with debug := false } platform file source).outcome.1 := by
  rw [Traced.outcome_eq (comesTo_compile _ _ _ _), Traced.outcome_eq (comesTo_compile _ _ _ _)]
  exact staged_debug_of_dumps dumps

theorem compile_of_failsToDump {options : Options} {platform source : String}
    (fails : options.FailsToDump platform source) (file : String) :
    (compile { options with debug := true } platform file source).outcome.1 =
        .error (.numeral .tooLarge) ∧
      ∃ compilation,
        (compile { options with debug := false } platform file source).outcome.1 = .ok compilation ∧
        compilation.stage = some .codegen ∧ compilation.success := by
  rw [Traced.outcome_eq (comesTo_compile _ _ _ _), Traced.outcome_eq (comesTo_compile _ _ _ _)]
  exact staged_of_failsToDump fails

/-! ## Runs of the command -/

section Translate

variable (files : FileTree) (surroundings : CommandLine.Surroundings) (options : Options)
  (input output : String)

theorem translate_of_dumps
    (dumps : ¬ ∃ octets, files.read input = .ok octets ∧
      options.FailsToDump surroundings.platform (Text.ofOctets octets)) :
    files.translate surroundings { options with debug := true } input output =
      files.translate surroundings { options with debug := false } input output := by
  unfold FileTree.translate
  cases found : files.read input with
  | error failure => rfl
  | ok octets =>
      dsimp only
      rw [compile_debug_of_dumps fun fails => dumps ⟨octets, found, fails⟩]

theorem translate_of_failsToDump {octets : List UInt8} (found : files.read input = .ok octets)
    (fails : options.FailsToDump surroundings.platform (Text.ofOctets octets)) (debug : Bool) :
    files.translate surroundings { options with debug } input output =
      (if debug then 1 else 0, files) := by
  have early : options.stopAfter ≠ some .emit := by
    rw [fails.stops]
    decide
  obtain ⟨loud, compilation, quiet, -⟩ := compile_of_failsToDump fails input
  unfold FileTree.translate
  rw [found]
  dsimp only
  cases debug with
  | true => rw [loud, FileTree.deliver]; rfl
  | false => rw [quiet, FileTree.deliver, if_pos early]; rfl

/-- The files after a compilation do not depend on the mode, and the exit status only if a dump
    fails. -/
theorem translate_modes (one two : Bool) :
    let first := files.translate surroundings { options with debug := one } input output
    let second := files.translate surroundings { options with debug := two } input output
    second.2 = first.2 ∧
      (second.1 = first.1 ↔ ¬ (one ≠ two ∧ ∃ octets, files.read input = .ok octets ∧
        options.FailsToDump surroundings.platform (Text.ofOctets octets))) := by
  intro first second
  by_cases fails : ∃ octets, files.read input = .ok octets ∧
      options.FailsToDump surroundings.platform (Text.ofOctets octets)
  · obtain ⟨octets, found, dump⟩ := fails
    have ends := translate_of_failsToDump files surroundings options input output found dump
    have exits : second.1 = first.1 ↔ one = two := by
      simp only [first, second, ends]
      cases one <;> cases two <;> decide
    refine ⟨by simp only [first, second, ends], exits.trans ?_⟩
    rw [and_iff_left ⟨octets, found, dump⟩, not_not]
  · have same := translate_of_dumps files surroundings options input output fails
    have equal : second = first := by
      cases one <;> cases two
      · rfl
      · exact same
      · exact same.symm
      · rfl
    rw [equal]
    exact ⟨rfl, iff_of_true rfl fun both => fails both.2⟩

end Translate

namespace CommandLine

/-- Whether a run is in debug mode. -/
def Surroundings.debugs (surroundings : Surroundings) (arguments : List String) : Bool :=
  (Options.ofEnvironment surroundings.setting?).debug ||
    match Arguments.read arguments with
    | .error _ => false
    | .ok given => given.has .debug

/-- A request for a machine program that cannot be dumped. -/
def Request.FailsToDump (surroundings : Surroundings) (files : FileTree) : Request → Prop
  | .display _ => False
  | .compile parameters =>
      ∃ octets, files.read (Path.normalize parameters.input) = .ok octets ∧
        (surroundings.options parameters).FailsToDump surroundings.platform (Text.ofOctets octets)

/-- A run is asked for a machine program that cannot be dumped. -/
def Surroundings.FailsToDump (surroundings : Surroundings) (files : FileTree)
    (arguments : List String) : Prop :=
  ∃ given request, Arguments.read arguments = .ok given ∧
    given.request files.status = .ok request ∧ request.FailsToDump surroundings files

section Runs

variable {surroundings : Surroundings} {files : FileTree}

theorem settle_inMode (parameters : Parameters) (debug : Bool) :
    settle surroundings files (.ok ((Request.compile parameters).inMode debug)) =
      Prod.map Except.ok id (files.translate surroundings
        { surroundings.options parameters with
          debug := (Options.ofEnvironment surroundings.setting?).debug || debug }
        (Path.normalize parameters.input) (Path.normalize parameters.output)) :=
  rfl

theorem exists_ok_and_iff {request : Request} {property : Request → Prop} :
    (∃ other, (.ok request : Except Refusal Request) = .ok other ∧ property other) ↔
      property request := by
  simp

theorem settle_modes (asked : Except Refusal Request) (one two : Bool) :
    let standard := (Options.ofEnvironment surroundings.setting?).debug
    let first := settle surroundings files (asked.map (Request.inMode one))
    let second := settle surroundings files (asked.map (Request.inMode two))
    second.2 = first.2 ∧
      (second.1 = first.1 ↔ ¬ ((standard || one) ≠ (standard || two) ∧
        ∃ request, asked = .ok request ∧ request.FailsToDump surroundings files)) := by
  intro standard first second
  rcases asked with (complaint | failure) | (text | parameters)
  · refine ⟨rfl, iff_of_true rfl ?_⟩
    rintro ⟨-, request, refused, -⟩
    cases refused
  · refine ⟨rfl, iff_of_true rfl ?_⟩
    rintro ⟨-, request, refused, -⟩
    cases refused
  · refine ⟨rfl, iff_of_true rfl ?_⟩
    rintro ⟨-, request, shown, fails⟩
    cases shown
    exact fails
  · have modes := translate_modes files surroundings (surroundings.options parameters)
      (Path.normalize parameters.input) (Path.normalize parameters.output)
      (standard || one) (standard || two)
    change (settle surroundings files (.ok ((Request.compile parameters).inMode two))).2 =
      (settle surroundings files (.ok ((Request.compile parameters).inMode one))).2 ∧
      ((settle surroundings files (.ok ((Request.compile parameters).inMode two))).1 =
      (settle surroundings files (.ok ((Request.compile parameters).inMode one))).1 ↔ _)
    rw [settle_inMode, settle_inMode, exists_ok_and_iff, Prod.map_fst, Prod.map_fst, Prod.map_snd,
      Prod.map_snd, Except.ok.injEq]
    exact modes

theorem failsToDump_inMode (request : Request) (debug : Bool) :
    (request.inMode debug).FailsToDump surroundings files ↔
      request.FailsToDump surroundings files := by
  cases request with
  | display text => exact Iff.rfl
  | compile parameters =>
      refine exists_congr fun octets => and_congr_right fun _ => ?_
      exact ⟨fun ⟨stops, resolves, oversized⟩ => ⟨stops, resolves, oversized⟩,
        fun ⟨stops, resolves, oversized⟩ => ⟨stops, resolves, oversized⟩⟩

theorem failsToDump_iff {arguments : List String} {given : Arguments}
    (sorted : Arguments.read arguments = .ok given) :
    surroundings.FailsToDump files arguments ↔
      ∃ request, given.withoutDebug.request files.status = .ok request ∧
        request.FailsToDump surroundings files := by
  unfold Surroundings.FailsToDump
  rw [sorted]
  constructor
  · rintro ⟨_, request, ⟨⟩, asked, fails⟩
    rw [Arguments.request_eq_inMode] at asked
    obtain ⟨plain, found, rfl⟩ := map_eq_ok_iff.1 asked
    exact ⟨plain, found, (failsToDump_inMode _ _).1 fails⟩
  · rintro ⟨request, asked, fails⟩
    refine ⟨given, _, rfl, ?_, (failsToDump_inMode request (given.has .debug)).2 fails⟩
    rw [Arguments.request_eq_inMode, asked]
    rfl

theorem debugs_of_read {arguments : List String} {given : Arguments}
    (sorted : Arguments.read arguments = .ok given) :
    surroundings.debugs arguments =
      ((Options.ofEnvironment surroundings.setting?).debug || given.has .debug) := by
  rw [Surroundings.debugs, sorted]

theorem settled_of_alike {plain debugged : List String} (alike : AlikeButDebug plain debugged) :
    (settled surroundings files debugged).2 = (settled surroundings files plain).2 ∧
      ((settled surroundings files debugged).1 = (settled surroundings files plain).1 ↔
        ¬ (surroundings.debugs plain ≠ surroundings.debugs debugged ∧
          surroundings.FailsToDump files plain)) := by
  unfold AlikeButDebug at alike
  cases one : Arguments.read plain with
  | error fault =>
      cases two : Arguments.read debugged with
      | error fault =>
          rw [settled_of_error one, settled_of_error two]
          refine ⟨rfl, iff_of_true rfl ?_⟩
          rintro ⟨-, given, request, sorted, -⟩
          rw [one] at sorted
          cases sorted
      | ok other =>
          rw [one, two] at alike
          cases alike
  | ok given =>
      cases two : Arguments.read debugged with
      | error fault =>
          rw [one, two] at alike
          cases alike
      | ok other =>
          rw [one, two] at alike
          have same : given.withoutDebug = other.withoutDebug := Except.ok.inj alike
          rw [settled_of_ok one, settled_of_ok two, debugs_of_read one, debugs_of_read two,
            failsToDump_iff one, given.request_eq_inMode, other.request_eq_inMode, ← same]
          exact settle_modes _ _ _

end Runs

end CommandLine

open CommandLine in
/-- Debug mode changes the outcome of a compilation just if it stops after the machine program of an
    oversized constant: what succeeds otherwise fails in debug mode. The debug option changes the
    exit status of a run in that case only, and never the files. -/
theorem debug_neutral_iff_dumps (options : Options) (platform file source : String)
    (surroundings : Surroundings) (files : FileTree) {plain debugged : List String}
    (alike : AlikeButDebug plain debugged) :
    ((compile { options with debug := true } platform file source).outcome.1 =
        (compile { options with debug := false } platform file source).outcome.1 ↔
      ¬ options.FailsToDump platform source) ∧
    (options.FailsToDump platform source →
      (compile { options with debug := true } platform file source).outcome.1 =
        .error (.numeral .tooLarge) ∧
      ∃ compilation,
        (compile { options with debug := false } platform file source).outcome.1 = .ok compilation ∧
        compilation.stage = some .codegen ∧ compilation.success) ∧
    (settled surroundings files debugged).2 = (settled surroundings files plain).2 ∧
    ((settled surroundings files debugged).1 = (settled surroundings files plain).1 ↔
      ¬ (surroundings.debugs plain ≠ surroundings.debugs debugged ∧
        surroundings.FailsToDump files plain)) := by
  have failing : options.FailsToDump platform source → _ :=
    fun fails => compile_of_failsToDump fails file
  refine ⟨⟨fun same fails => ?_, fun dumps => compile_debug_of_dumps dumps file⟩, failing,
    settled_of_alike alike⟩
  obtain ⟨loud, compilation, quiet, -⟩ := failing fails
  rw [loud, quiet] at same
  cases same

open CommandLine in
/-- An octal constant that can be written. -/
theorem debug_neutral_iff_dumps_short :
    let octets : List UInt8 := "int f(void)\x7breturn 010;\x7d".toList.map fun c => .ofNat c.toNat
    let files : FileTree := { entries := [([['a', '.', 'c']], .file octets)] }
    let plain := ["a.c", "-o", "a.s", "--codegen"]
    let debugged := ["a.c", "--debug", "-o", "a.s", "--codegen"]
    AlikeButDebug plain debugged ∧
    (compile { stopAfter := some .codegen, debug := true } "linux" "a.c"
        "int f(void)\x7breturn 010;\x7d").outcome.1 =
      (compile { stopAfter := some .codegen } "linux" "a.c"
        "int f(void)\x7breturn 010;\x7d").outcome.1 ∧
    settled {} files debugged = settled {} files plain := by
  intro octets files plain debugged
  have alike : AlikeButDebug plain debugged :=
    @Arguments.alikeButDebug_insert ["a.c"] ["-o", "a.s", "--codegen"] _ rfl (by decide)
  have written : ProgramText "f" "010" "int f(void)\x7breturn 010;\x7d".toList :=
    @ProgramText.spelled "f" "010" [] [' '] [] [] [] [] [] [' '] [] [] [] (by simp [IsBlank])
      (by decide) (by decide) (by decide) (by decide)
  have short : ¬ Oversized "int f(void)\x7breturn 010;\x7d".toList := by
    rintro ⟨name, constant, other, -, large⟩
    obtain ⟨-, rfl⟩ := written.unique other
    have value : constantValue "010".toList = 8 := by decide
    rw [value] at large
    exact Nat.not_lt.2 large (Numeral.small_of_lt (by decide))
  obtain ⟨compiled, -, left, exits⟩ := debug_neutral_iff_dumps { stopAfter := some .codegen }
    "linux" "a.c" "int f(void)\x7breturn 010;\x7d" {} files alike
  refine ⟨alike, compiled.2 fun fails => short fails.oversized, Prod.ext (exits.2 ?_) left⟩
  rintro ⟨-, given, request, sorted, asked, fails⟩
  cases sorted
  cases asked
  obtain ⟨content, found, fails⟩ := fails
  cases found
  have text : Text.ofOctets octets = "int f(void)\x7breturn 010;\x7d" := by decide
  have oversized := fails.oversized
  rw [text] at oversized
  exact short oversized

/-- The value `8 ^ 4800` has more than 4300 decimal digits. -/
theorem debug_fails_on_many_zeros :
    let source := String.ofList
      ("int f(void)\x7breturn 01".toList ++ List.replicate 4800 '0' ++ ";\x7d".toList)
    let options : Options := { target := some "linux", stopAfter := some .codegen }
    (compile { options with debug := true } "linux" "f.c" source).outcome.1 =
      .error (.numeral .tooLarge) ∧
    ∃ compilation,
      (compile { options with debug := false } "linux" "f.c" source).outcome.1 = .ok compilation ∧
      compilation.stage = some .codegen ∧ compilation.success := by
  intro source options
  have oversized : Oversized source.toList := by
    rw [String.toList_ofList]
    exact oversized_of_zeros (@ten_pow_le_eight_pow _ _ 100 rfl rfl)
  exact compile_of_failsToDump ⟨rfl, ⟨_, rfl⟩, oversized⟩ "f.c"

end MicroC
