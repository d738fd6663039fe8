import MicroC.CommandLine.Run

/-! # What a run settles

A run of the command on a file tree leaves an exit status and the files behind it, besides the texts
that it tells. Both are a plain function of the files, of what the arguments ask for and of the
outcome of one compilation.
-/

namespace MicroC

open CommandLine (Surroundings)

/-- Write out what a compilation has made, unless it was to stop early. -/
def FileTree.deliver (files : FileTree) (surroundings : Surroundings) (stopAfter : Option Stage)
    (output : String) : Except Failure Compilation → Nat × FileTree
  | .error _ => (1, files)
  | .ok compilation =>
      if stopAfter ≠ some .emit then (0, files)
      else match files.write output (surroundings.octets compilation.assembly) with
        | .error _ => (1, files)
        | .ok after => (0, after)

/-- Compile the file at a path and write the result to another. -/
def FileTree.translate (files : FileTree) (surroundings : Surroundings) (options : Options)
    (input output : String) : Nat × FileTree :=
  match files.read input with
  | .error _ => (1, files)
  | .ok octets =>
      files.deliver surroundings options.stopAfter output
        (compile options surroundings.platform input (Text.ofOctets octets)).outcome.1

/-- What access to files does, as plain functions of the files. -/
structure FileSystem (σ : Type) where
  /-- What a path leads to. -/
  status : σ → String → Except Failure FileStatus
  /-- The octets of a file. -/
  read : σ → String → Except Failure (List UInt8)
  /-- Write a file. -/
  write : σ → String → List UInt8 → Except Failure σ

/-- Access to the files of a file system. -/
def FileSystem.access (system : FileSystem σ) : FileAccess (StateM σ) where
  status path := do return system.status (← get) path
  read path := do return system.read (← get) path
  write path octets := do
    match system.write (← get) path octets with
    | .ok files =>
        set files
        return .ok ()
    | .error failure => return .error failure

/-- File trees as a file system. -/
def FileTree.system : FileSystem FileTree where
  status := FileTree.status
  read := FileTree.read
  write := FileTree.write

namespace CommandLine

/-- The exit status of a run and the files after it. Without a status there is the failure that kept
    the arguments from being checked. -/
def settled (surroundings : Surroundings) (files : FileTree) (arguments : List String) :
    Except Failure Nat × FileTree :=
  let (outcome, after) := (run FileTree.access surroundings arguments).run files
  (outcome.map Report.exit, after)

/-- The exit status and the files after doing what is asked for, if anything is. -/
def settle (surroundings : Surroundings) (files : FileTree) :
    Except Refusal Request → Except Failure Nat × FileTree
  | .error (.usage _) => (.ok 1, files)
  | .error (.failed failure) => (.error failure, files)
  | .ok (.display _) => (.ok 0, files)
  | .ok (.compile parameters) =>
      let (exit, after) := files.translate surroundings (surroundings.options parameters)
        (Path.normalize parameters.input) (Path.normalize parameters.output)
      (.ok exit, after)

/-! ## Statuses that count -/

section Statuses

variable {arguments : Arguments} {one two : Statuses}
  (same : ∀ path ∈ arguments.paths, one path = two path)
include same

theorem checkSwitch_congr (switch : Switch) :
    checkSwitch one arguments switch = checkSwitch two arguments switch := by
  cases switch with
  | output =>
      cases given : arguments.value? .output with
      | none => simp only [checkSwitch, given]
      | some path =>
          have equal : one path = two path := same path (by simp [Arguments.paths, given])
          simp only [checkSwitch, given, checkPath, equal]
  | target => cases given : arguments.value? .target <;> simp only [checkSwitch, given]
  | _ => rfl

theorem checkInput_congr :
    checkInput one arguments.positional = checkInput two arguments.positional := by
  cases given : arguments.positional with
  | nil => rfl
  | cons path rest =>
      have equal : one path = two path := same path (by simp [Arguments.paths, given])
      simp only [checkInput, checkPath, equal]

/-- What is asked for depends on no other path. -/
theorem Arguments.request_congr : arguments.request one = arguments.request two := by
  have switches : checkSwitch one arguments = checkSwitch two arguments :=
    funext (checkSwitch_congr same)
  unfold request
  rw [switches, checkInput_congr same]

end Statuses

theorem statusIn_of_mem {status : Statuses} {paths : List String} {path : String}
    (member : path ∈ paths) :
    statusIn (paths.map fun path => (path, status path)) path = status path := by
  induction paths with
  | nil => cases member
  | cons first rest ih =>
      rw [List.map_cons, statusIn, List.lookup_cons]
      by_cases equal : path = first
      · subst equal
        rw [beq_self_eq_true]
        rfl
      · rw [beq_eq_false_iff_ne.2 equal]
        exact ih ((List.mem_cons.1 member).resolve_left equal)

/-! ## Runs -/

section Runs

variable {σ : Type}

theorem run_bind (first : StateM σ α) (next : α → StateM σ β) (files : σ) :
    (first >>= next).run files = (next (first.run files).1).run (first.run files).2 :=
  rfl

variable {system : FileSystem σ} {files : σ}

theorem run_mapM_status (paths : List String) :
    (paths.mapM fun path => do return (path, ← system.access.status path)).run files =
      (paths.map fun path => (path, system.status files path), files) := by
  induction paths with
  | nil => rfl
  | cons path rest ih =>
      rw [List.mapM_cons]
      exact congrArg (fun later => ((path, system.status files path) :: later.1, later.2)) ih

theorem run_read (path : String) :
    (system.access.read path).run files = (system.read files path, files) :=
  rfl

theorem run_write_of_ok {path : String} {octets : List UInt8} {after : σ}
    (written : system.write files path octets = .ok after) :
    (system.access.write path octets).run files = (.ok (), after) := by
  have current : (get : StateM σ σ).run files = (files, files) := rfl
  unfold FileSystem.access
  dsimp only
  rw [run_bind, current]
  dsimp only
  rw [written]
  rfl

theorem run_write_of_error {path : String} {octets : List UInt8} {failure : Failure}
    (refused : system.write files path octets = .error failure) :
    (system.access.write path octets).run files = (.error failure, files) := by
  have current : (get : StateM σ σ).run files = (files, files) := rfl
  unfold FileSystem.access
  dsimp only
  rw [run_bind, current]
  dsimp only
  rw [refused]
  rfl

/-- How compiling a file to another ends, and what it makes of the files. -/
inductive Delivers (system : FileSystem σ) (surroundings : Surroundings) (options : Options)
    (input output : String) (files : σ) : Nat → σ → Prop where
  | unread {failure : Failure} :
      system.read files input = .error failure →
      Delivers system surroundings options input output files 1 files
  | failed {octets : List UInt8} {failure : Failure} :
      system.read files input = .ok octets →
      (compile options surroundings.platform input (Text.ofOctets octets)).outcome.1 =
        .error failure →
      Delivers system surroundings options input output files 1 files
  | stopped {octets : List UInt8} {compilation : Compilation} :
      system.read files input = .ok octets →
      (compile options surroundings.platform input (Text.ofOctets octets)).outcome.1 =
        .ok compilation →
      options.stopAfter ≠ some .emit →
      Delivers system surroundings options input output files 0 files
  | unwritten {octets : List UInt8} {compilation : Compilation} {failure : Failure} :
      system.read files input = .ok octets →
      (compile options surroundings.platform input (Text.ofOctets octets)).outcome.1 =
        .ok compilation →
      options.stopAfter = some .emit →
      system.write files output (surroundings.octets compilation.assembly) = .error failure →
      Delivers system surroundings options input output files 1 files
  | written {octets : List UInt8} {compilation : Compilation} {after : σ} :
      system.read files input = .ok octets →
      (compile options surroundings.platform input (Text.ofOctets octets)).outcome.1 =
        .ok compilation →
      options.stopAfter = some .emit →
      system.write files output (surroundings.octets compilation.assembly) = .ok after →
      Delivers system surroundings options input output files 0 after

theorem delivers_compileTo (surroundings : Surroundings) (options : Options) (input output : String) :
    let ended := (compileTo system.access surroundings options input output).run files
    Delivers system surroundings options input output files ended.1.exit ended.2 := by
  dsimp only
  unfold compileTo
  rw [run_bind, run_read]
  cases found : system.read files input with
  | error failure => exact .unread found
  | ok octets =>
      dsimp only
      cases compiled :
        (compile options surroundings.platform input (Text.ofOctets octets)).outcome.1 with
      | error failure => exact .failed found compiled
      | ok compilation =>
          dsimp only
          split
          next early => exact .stopped found compiled early
          next late =>
            rw [run_bind]
            cases written : system.write files output (surroundings.octets compilation.assembly) with
            | error failure =>
                rw [run_write_of_error written]
                exact .unwritten found compiled (Decidable.not_not.1 late) written
            | ok after =>
                rw [run_write_of_ok written]
                exact .written found compiled (Decidable.not_not.1 late) written

/-- How a run ends on an answer about its arguments, with an exit status or with the failure that kept
    the arguments from being checked, and what it makes of the files. -/
inductive Ends (system : FileSystem σ) (surroundings : Surroundings) (files : σ) :
    Except Refusal Request → Except Failure Nat → σ → Prop where
  | misused {complaint : String} :
      Ends system surroundings files (.error (.usage complaint)) (.ok 1) files
  | unchecked {failure : Failure} :
      Ends system surroundings files (.error (.failed failure)) (.error failure) files
  | shown {text : String} : Ends system surroundings files (.ok (.display text)) (.ok 0) files
  | compiled {parameters : Parameters} {exit : Nat} {after : σ} :
      Delivers system surroundings (surroundings.options parameters)
        (Path.normalize parameters.input) (Path.normalize parameters.output) files exit after →
      Ends system surroundings files (.ok (.compile parameters)) (.ok exit) after

theorem ends_runWith {reader : Reader (StateM σ)} {arguments : List String}
    {answer : Except Refusal Request} (answered : (reader arguments).run files = (answer, files))
    (surroundings : Surroundings) :
    let ended := (runWith reader system.access surroundings arguments).run files
    Ends system surroundings files answer (ended.1.map Report.exit) ended.2 := by
  dsimp only
  unfold runWith
  rw [run_bind, answered]
  rcases answer with (complaint | failure) | (text | parameters)
  · exact .misused
  · exact .unchecked
  · exact .shown
  · have delivered := @delivers_compileTo σ system files surroundings
      (surroundings.options parameters) (Path.normalize parameters.input)
      (Path.normalize parameters.output)
    dsimp only [perform]
    rw [run_bind]
    generalize (compileTo system.access surroundings (surroundings.options parameters)
      (Path.normalize parameters.input) (Path.normalize parameters.output)).run files = ended
      at delivered ⊢
    exact .compiled delivered

/-! ## The standard reader -/

theorem run_standardReader_of_error {arguments : List String} {fault : ArgumentFault}
    (sorted : Arguments.read arguments = .error fault) :
    (standardReader system.access arguments).run files = (complain (.arguments fault), files) := by
  unfold standardReader
  rw [sorted]
  rfl

theorem run_standardReader_of_ok {arguments : List String} {given : Arguments}
    (sorted : Arguments.read arguments = .ok given) :
    (standardReader system.access arguments).run files =
      (given.request (system.status files), files) := by
  have known : given.request
      (statusIn (given.paths.map fun path => (path, system.status files path))) =
      given.request (system.status files) :=
    Arguments.request_congr fun _ member => statusIn_of_mem member
  unfold standardReader
  rw [sorted]
  dsimp only
  rw [run_bind, run_mapM_status]
  exact congrArg (·, files) known

/-- Reading arguments changes no file. -/
theorem exists_run_standardReader (arguments : List String) :
    ∃ answer, (standardReader system.access arguments).run files = (answer, files) := by
  cases sorted : Arguments.read arguments with
  | error fault => exact ⟨_, run_standardReader_of_error sorted⟩
  | ok given => exact ⟨_, run_standardReader_of_ok sorted⟩

end Runs

/-! ## Runs on file trees -/

theorem access_eq : FileTree.access = FileTree.system.access := by
  have write : FileTree.access.write = FileTree.system.access.write := by
    funext path octets files
    have current : (get : StateM FileTree FileTree).run files = (files, files) := rfl
    change (FileTree.access.write path octets).run files =
      (FileTree.system.access.write path octets).run files
    unfold FileTree.access
    dsimp only
    rw [run_bind, current]
    dsimp only
    cases written : files.write path octets with
    | ok after =>
        rw [@run_write_of_ok _ FileTree.system _ _ _ _ written]
        rfl
    | error failure =>
        rw [@run_write_of_error _ FileTree.system _ _ _ _ written]
        rfl
  exact congrArg (FileAccess.mk _ _) write

theorem Delivers.translate_eq {files after : FileTree} {surroundings : Surroundings}
    {input output : String} {options : Options} {exit : Nat}
    (delivers : Delivers FileTree.system surroundings options input output files exit after) :
    files.translate surroundings options input output = (exit, after) := by
  cases delivers with
  | unread found =>
      have found : files.read input = _ := found
      simp only [FileTree.translate, found]
  | failed found compiled =>
      have found : files.read input = _ := found
      simp only [FileTree.translate, found, compiled, FileTree.deliver]
  | stopped found compiled early =>
      have found : files.read input = _ := found
      simp only [FileTree.translate, found, compiled, FileTree.deliver, if_pos early]
  | unwritten found compiled late written | written found compiled late written =>
      have found : files.read input = _ := found
      have written : files.write output _ = _ := written
      simp only [FileTree.translate, found, compiled, FileTree.deliver, late, ne_eq, not_true_eq_false,
        if_false, written]

theorem Ends.settle_eq {surroundings : Surroundings} {files after : FileTree}
    {answer : Except Refusal Request} {outcome : Except Failure Nat}
    (ends : Ends FileTree.system surroundings files answer outcome after) :
    settle surroundings files answer = (outcome, after) := by
  cases ends with
  | misused | unchecked | shown => rfl
  | compiled delivers => simp only [settle, delivers.translate_eq]

theorem settled_eq {surroundings : Surroundings} {files : FileTree} {arguments : List String}
    {answer : Except Refusal Request}
    (answered : (standardReader FileTree.system.access arguments).run files = (answer, files)) :
    settled surroundings files arguments = settle surroundings files answer := by
  have ends := @ends_runWith _ FileTree.system _ _ _ _ answered surroundings
  unfold settled run
  rw [access_eq]
  generalize (runWith _ FileTree.system.access surroundings arguments).run files = ended at ends ⊢
  exact ends.settle_eq.symm

theorem settled_of_error {surroundings : Surroundings} {files : FileTree} {arguments : List String}
    {fault : ArgumentFault} (sorted : Arguments.read arguments = .error fault) :
    settled surroundings files arguments = (.ok 1, files) :=
  settled_eq (run_standardReader_of_error sorted)

theorem settled_of_ok {surroundings : Surroundings} {files : FileTree} {arguments : List String}
    {given : Arguments} (sorted : Arguments.read arguments = .ok given) :
    settled surroundings files arguments =
      settle surroundings files (given.request files.status) :=
  settled_eq (run_standardReader_of_ok sorted)

end CommandLine

end MicroC
