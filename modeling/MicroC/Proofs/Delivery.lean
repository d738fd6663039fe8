import MicroC.Proofs.DebugMode
import MicroC.Proofs.Orders

/-! # Output with success, and only then

A run of the command on a file system in which any single access may fail, with any lawful reader of
its arguments. It exits with 0 or 1. It changes nothing but the output, and that only if everything
succeeds; then the output is the assembly of the input.
-/

namespace MicroC

/-! ## Writing changes one place -/

namespace FileTree

theorem lookup_filter_ne (entries : List (Place × FileEntry)) {place other : Place}
    (elsewhere : other ≠ place) :
    (entries.filter (·.1 ≠ place)).lookup other = entries.lookup other := by
  induction entries with
  | nil => rfl
  | cons first rest ih =>
      obtain ⟨key, entry⟩ := first
      by_cases same : key = place
      · have further : (other == key) = false := by rw [beq_eq_false_iff_ne, same]; exact elsewhere
        rw [List.filter_cons_of_neg (by simpa using same), ih, List.lookup_cons, further]
      · rw [List.filter_cons_of_pos (by simpa using same), List.lookup_cons, List.lookup_cons, ih]

theorem at?_cons (tree : FileTree) (name : List Char) (names : Place) :
    tree.at? (name :: names) = tree.entries.lookup (name :: names) :=
  rfl

theorem at?_put (tree : FileTree) {place : Place} (below : place ≠ []) (entry : FileEntry) :
    (tree.put place entry).at? place = some entry ∧
      ∀ other, other ≠ place → (tree.put place entry).at? other = tree.at? other := by
  obtain ⟨name, names, rfl⟩ := List.exists_cons_of_ne_nil below
  refine ⟨?_, fun other elsewhere => ?_⟩
  · rw [at?_cons, put, List.lookup_cons, beq_self_eq_true]
  · cases other with
    | nil => rfl
    | cons =>
        rw [at?_cons, at?_cons, put, List.lookup_cons, beq_eq_false_iff_ne.2 elsewhere]
        exact lookup_filter_ne _ elsewhere

theorem write_eq_ok {tree after : FileTree} {path : String} {octets : List UInt8}
    (written : tree.write path octets = .ok after) :
    ∃ place, tree.locate path = .ok place ∧ after.at? place = some (.file octets) ∧
      ∀ other, other ≠ place → after.at? other = tree.at? other := by
  obtain ⟨place, located, put⟩ := bind_eq_ok_iff.1 written
  have below : place ≠ [] := by
    rintro rfl
    cases put
  obtain rfl : tree.put place (.file octets) = after := by
    cases there : tree.at? place with
    | none =>
        rw [there] at put
        exact Except.ok.inj put
    | some entry =>
        rw [there] at put
        cases entry with
        | file => exact Except.ok.inj put
        | directory => cases put
  exact ⟨place, located, tree.at?_put below _⟩

end FileTree

/-! ## Where paths lead -/

/-- What stands at the places of a file system, and where paths lead. Octets that are written stand at
    the place that their path leads to, and no other place changes. -/
structure FileSystem.Layout {σ : Type} (system : FileSystem σ) where
  Place : Type
  Entry : Type
  file : List UInt8 → Entry
  at? : σ → Place → Option Entry
  Leads : σ → String → Place → Prop
  write_eq_ok : ∀ {files after : σ} {path : String} {octets : List UInt8},
    system.write files path octets = .ok after →
    ∃ place, Leads files path place ∧ at? after place = some (file octets) ∧
      ∀ other, other ≠ place → at? after other = at? files other

/-- The layout of file trees. -/
def FileTree.layout : FileTree.system.Layout where
  Place := MicroC.Place
  Entry := FileEntry
  file := .file
  at? := FileTree.at?
  Leads files path place := files.locate path = .ok place
  write_eq_ok := FileTree.write_eq_ok

/-! ## Runs -/

namespace CommandLine

theorem octets_of_lineFeed {surroundings : Surroundings} (feeds : surroundings.lineEnd = "\n")
    (text : String) : surroundings.octets text = text.toUTF8.data.toList := by
  have kept : (fun c : Char => if c = '\n' then "\n".toList else [c]) = fun c => [c] := by
    funext c
    split
    next feed => rw [feed]; rfl
    next => rfl
  rw [Surroundings.octets, feeds, Text.withLineEnds, kept, List.flatMap_singleton', String.ofList_toList]
  rfl

theorem assemble_of_compile {surroundings : Surroundings} {parameters : Parameters}
    {file source : String} {compilation : Compilation}
    (compiled : (compile (surroundings.ordered parameters .emit) surroundings.platform file
      source).outcome.1 = .ok compilation) :
    assemble (surroundings.selection parameters) surroundings.platform file source =
      .ok compilation.assembly := by
  let options : Options := { target := surroundings.selection parameters }
  -- Dumps can fail only where a compilation stops after the machine program.
  have dumps : ¬ options.FailsToDump surroundings.platform source := fun fails => nomatch fails.stops
  have same : ∀ debug, (compile { options with debug } surroundings.platform file source).outcome.1 =
      (compile options surroundings.platform file source).outcome.1 := by
    intro debug
    cases debug with
    | false => rfl
    | true => exact compile_debug_of_dumps dumps file
  have quiet := (same _).symm.trans compiled
  rw [assemble, quiet]
  rfl

namespace Delivers

variable {σ : Type} {system : FileSystem σ} {surroundings : Surroundings} {input output : String}
  {options : Options} {files after : σ} {exit : Nat}

theorem exit_cases (delivers : Delivers system surroundings options input output files exit after) :
    exit = 0 ∨ exit = 1 ∧ after = files := by
  cases delivers with
  | stopped | written => exact .inl rfl
  | unread | failed | unwritten => exact .inr ⟨rfl, rfl⟩

theorem exit_eq_zero_iff
    (delivers : Delivers system surroundings options input output files exit after) :
    exit = 0 ↔ ∃ octets compilation, system.read files input = .ok octets ∧
      (compile options surroundings.platform input (Text.ofOctets octets)).outcome.1 =
        .ok compilation ∧
      (options.stopAfter = some .emit →
        ∃ written, system.write files output (surroundings.octets compilation.assembly) =
          .ok written) := by
  cases delivers with
  | unread found => simp [found]
  | failed found compiled => simp [found, compiled]
  | stopped found compiled early => simp [found, compiled, early]
  | unwritten found compiled late refused => simp [found, compiled, late, refused]
  | written found compiled late written => simp [found, compiled, late, written]

/-- The files change only if the output is written. -/
theorem after_cases (delivers : Delivers system surroundings options input output files exit after) :
    after = files ∧ (options.stopAfter = some .emit → exit = 1) ∨
    ∃ octets compilation, options.stopAfter = some .emit ∧ system.read files input = .ok octets ∧
      (compile options surroundings.platform input (Text.ofOctets octets)).outcome.1 =
        .ok compilation ∧
      system.write files output (surroundings.octets compilation.assembly) = .ok after := by
  cases delivers with
  | unread | failed | unwritten => exact .inl ⟨rfl, fun _ => rfl⟩
  | stopped _ _ early => exact .inl ⟨rfl, fun late => absurd late early⟩
  | written found compiled late written => exact .inr ⟨_, _, late, found, compiled, written⟩

end Delivers

section Ends

variable {σ : Type} {system : FileSystem σ} {surroundings : Surroundings} {files after : σ}
  {answer : Except Refusal Request} {outcome : Except Failure Nat}
  (ends : Ends system surroundings files answer outcome after)
include ends

theorem Ends.exit_cases :
    outcome.toOption.getD 1 = 0 ∨ outcome.toOption.getD 1 = 1 ∧ after = files := by
  cases ends with
  | shown => exact .inl rfl
  | misused | unchecked => exact .inr ⟨rfl, rfl⟩
  | compiled delivers => exact delivers.exit_cases

/-- Without a compilation nothing changes, and only a text to show is a success. -/
theorem Ends.idle_or_compiles :
    after = files ∧ ((∀ text, answer ≠ .ok (.display text)) → outcome.toOption.getD 1 = 1) ∨
      ∃ parameters, answer = .ok (.compile parameters) := by
  cases ends with
  | shown => exact .inl ⟨rfl, fun quiet => absurd rfl (quiet _)⟩
  | misused | unchecked => exact .inl ⟨rfl, fun _ => rfl⟩
  | compiled => exact .inr ⟨_, rfl⟩

theorem Ends.shown_of_display {text : String} (asked : answer = .ok (.display text)) :
    outcome.toOption.getD 1 = 0 ∧ after = files := by
  subst asked
  cases ends
  exact ⟨rfl, rfl⟩

/-- What is asked for is what is done. -/
theorem Ends.delivers {parameters : Parameters} {stage : Stage}
    (asked : answer = .ok (.compile parameters)) (known : parameters.TargetKnown)
    (stops : parameters.StopsAt stage) :
    ∃ exit, outcome = .ok exit ∧
      Delivers system surroundings (surroundings.ordered parameters stage)
        (Path.normalize parameters.input) (Path.normalize parameters.output) files exit after := by
  subst asked
  cases ends with
  | compiled delivers =>
      rw [options_eq_ordered known stops] at delivers
      exact ⟨_, rfl, delivers⟩

variable (known : ∀ parameters, answer = .ok (.compile parameters) → parameters.TargetKnown)
include known

theorem Ends.exit_eq_zero_iff (quiet : ∀ text, answer ≠ .ok (.display text)) :
    outcome.toOption.getD 1 = 0 ↔ ∃ parameters stage octets compilation,
      answer = .ok (.compile parameters) ∧ parameters.StopsAt stage ∧
      system.read files (Path.normalize parameters.input) = .ok octets ∧
      (compile (surroundings.ordered parameters stage) surroundings.platform
        (Path.normalize parameters.input) (Text.ofOctets octets)).outcome.1 = .ok compilation ∧
      (stage = .emit → ∃ written, system.write files (Path.normalize parameters.output)
        (surroundings.octets compilation.assembly) = .ok written) := by
  constructor
  · intro zero
    rcases ends.idle_or_compiles with ⟨-, fails⟩ | ⟨parameters, asked⟩
    · rw [fails quiet] at zero
      cases zero
    · have stops := parameters.stopsAt_earliest
      obtain ⟨exit, rfl, delivers⟩ := ends.delivers asked (known _ asked) stops
      obtain ⟨octets, compilation, found, compiled, written⟩ := delivers.exit_eq_zero_iff.1 zero
      exact ⟨parameters, _, octets, compilation, asked, stops, found, compiled,
        fun last => written (congrArg some last)⟩
  · rintro ⟨parameters, stage, octets, compilation, asked, stops, found, compiled, written⟩
    obtain ⟨exit, rfl, delivers⟩ := ends.delivers asked (known _ asked) stops
    exact delivers.exit_eq_zero_iff.2
      ⟨octets, compilation, found, compiled, fun last => written (Option.some.inj last)⟩

/-- Nothing changes but the place of an output that is to be written. -/
theorem Ends.frame (layout : system.Layout) {place : layout.Place}
    (changed : layout.at? after place ≠ layout.at? files place) :
    ∃ parameters, answer = .ok (.compile parameters) ∧ parameters.StopsAt .emit ∧
      layout.Leads files (Path.normalize parameters.output) place := by
  rcases ends.idle_or_compiles with ⟨rfl, -⟩ | ⟨parameters, asked⟩
  · exact absurd rfl changed
  · have stops := parameters.stopsAt_earliest
    obtain ⟨exit, -, delivers⟩ := ends.delivers asked (known _ asked) stops
    rcases delivers.after_cases with ⟨rfl, -⟩ | ⟨octets, compilation, last, -, -, written⟩
    · exact absurd rfl changed
    · rw [Option.some.inj last] at stops
      obtain ⟨goal, leads, -, elsewhere⟩ := layout.write_eq_ok written
      obtain rfl : place = goal := by
        by_contra other
        exact changed (elsewhere place other)
      exact ⟨parameters, asked, stops, leads⟩

theorem Ends.written (layout : system.Layout) {parameters : Parameters}
    (asked : answer = .ok (.compile parameters)) (stops : parameters.StopsAt .emit)
    (zero : outcome.toOption.getD 1 = 0) :
    ∃ octets text place, system.read files (Path.normalize parameters.input) = .ok octets ∧
      assemble (surroundings.selection parameters) surroundings.platform
        (Path.normalize parameters.input) (Text.ofOctets octets) = .ok text ∧
      layout.Leads files (Path.normalize parameters.output) place ∧
      layout.at? after place = some (layout.file (surroundings.octets text)) := by
  obtain ⟨exit, rfl, delivers⟩ := ends.delivers asked (known _ asked) stops
  rcases delivers.after_cases with ⟨-, one⟩ | ⟨octets, compilation, -, found, compiled, written⟩
  · have zero : exit = 0 := zero
    rw [one rfl] at zero
    cases zero
  · obtain ⟨place, leads, holds, -⟩ := layout.write_eq_ok written
    exact ⟨octets, _, place, found, assemble_of_compile compiled, leads, holds⟩

end Ends

theorem exitStatus_eq (outcome : Except Failure Report) :
    exitStatus outcome = (outcome.map Report.exit).toOption.getD 1 := by
  cases outcome <;> rfl

end CommandLine

end MicroC
