import MicroC.CommandLine.Request

/-! # Running the command

A run reads its arguments, compiles the input and writes the output. The output is written only if
the arguments ask for it, no early stop is asked for and every stage succeeds.
-/

namespace MicroC.CommandLine

/-- What surrounds a run. -/
structure Surroundings where
  setting? : String → Option String := fun _ => none
  platform : String := "linux"
  /-- What the platform puts at the end of a line in the files that it writes. -/
  lineEnd : String := "\n"
  /-- The trace to show for an internal fault in verbose mode. -/
  trace : String := ""

/-- The options of a compilation: the environment's, overridden by what the run is given. -/
def Surroundings.options (surroundings : Surroundings) (parameters : Parameters) : Options :=
  let standard := Options.ofEnvironment surroundings.setting?
  { target := Problem.stated? parameters.target <|> standard.target
    stopAfter := some (Stage.earliest parameters.lex parameters.parse parameters.codegen)
    debug := standard.debug || parameters.debug }

/-- The octets of a text that is written to a file. -/
def Surroundings.octets (surroundings : Surroundings) (text : String) : List UInt8 :=
  Text.toOctets (Text.withLineEnds surroundings.lineEnd text)

/-- The log as lines. -/
def logText (log : List Log.Entry) : String :=
  String.join (log.map fun entry => entry.render ++ "\n")

variable {m : Type → Type} [Monad m]

/-- Compile an input and write the output. -/
def compileTo (files : FileAccess m) (surroundings : Surroundings) (options : Options)
    (input output : String) : m Report := do
  let failed (log : String) (failure : Failure) : Report :=
    let report := Report.ofFailure options.debug surroundings.trace failure
    { report with stderr := log ++ report.stderr }
  match ← files.read input with
  | .error failure => return failed "" failure
  | .ok octets =>
      let (outcome, entries) :=
        (compile options surroundings.platform input (Text.ofOctets octets)).outcome
      let log := if options.debug then logText entries else ""
      match outcome with
      | .error failure => return failed log failure
      | .ok compilation =>
          if options.stopAfter ≠ some .emit then
            return { exit := 0, stderr := log }
          match ← files.write output (surroundings.octets compilation.assembly) with
          | .error failure => return failed log failure
          | .ok () =>
              return { exit := 0, stdout := told s!"Compiled {input} -> {output}", stderr := log }

/-- Do what the arguments ask for. -/
def perform (files : FileAccess m) (surroundings : Surroundings) : Request → m Report
  | .display text => return { exit := 0, stdout := text }
  | .compile parameters =>
      compileTo files surroundings (surroundings.options parameters)
        (Path.normalize parameters.input) (Path.normalize parameters.output)

/-- Run the command with some reader of its arguments. A run has no report only if its arguments
    cannot be checked. -/
def runWith (reader : Reader m) (files : FileAccess m) (surroundings : Surroundings)
    (arguments : List String) : m (Except Failure Report) := do
  match ← reader arguments with
  | .error (.usage complaint) => return .ok { exit := 1, stderr := complaint }
  | .error (.failed failure) => return .error failure
  | .ok request => return .ok (← perform files surroundings request)

/-- Run the command. -/
def run (files : FileAccess m) (surroundings : Surroundings) (arguments : List String) :
    m (Except Failure Report) :=
  runWith (standardReader files) files surroundings arguments

/-- The exit status of a run. A run without a report fails like any other. -/
def exitStatus : Except Failure Report → Nat
  | .ok report => report.exit
  | .error _ => 1

end MicroC.CommandLine
