import MicroC.CommandLine.Run

/-! # The command

The command on the files and in the environment of the machine.
-/

namespace MicroC.CommandLine

/-- The number of an error, which may come negated in 32 bits. -/
def errorNumber (code : UInt32) : Nat :=
  if code.toNat < 0x80000000 then code.toNat else 0x100000000 - code.toNat

/-- The fault of the file system with a number, at a path. -/
def faultOfNumber (path details : String) : Nat → FileFault
  | 2 => .notFound path
  | 20 => .notDirectory path
  | 21 => .isDirectory path
  | 36 => .nameTooLong path
  | number => .other (FileFault.numberedAt number details path)

/-- The fault of the file system behind an error at a path. -/
def faultOf (path : String) : IO.Error → FileFault
  | .noFileOrDirectory .. => .notFound path
  | .inappropriateType _ code details | .permissionDenied _ code details
  | .invalidArgument _ code details =>
      faultOfNumber path details (errorNumber code)
  | error => .other error.toString

/-- Do something with a path of the machine, unless it is one that no file can have. -/
def atMachinePath (path : String) (action : IO α) : IO (Except Failure α) := do
  if Path.hasNull path then return .error (.internal .nullInPath)
  try
    return .ok (← action)
  catch error => return .error (.file (faultOf path error))

/-- Read a file of the machine. -/
def readMachineFile (path : String) : IO (Except Failure (List UInt8)) :=
  atMachinePath path do return (← IO.FS.readBinFile path).data.toList

/-- What a path of the machine leads to. Something that cannot be read is there if the way to it can be
    followed. -/
def machineStatus (path : String) : IO (Except Failure FileStatus) := do
  match ← readMachineFile path with
  | .ok _ => return .ok .file
  | .error (.file (.isDirectory _)) => return .ok .directory
  | .error (.file (.other _)) =>
      let followed ← atMachinePath path (IO.FS.realPath path)
      return followed.map fun _ => .unreadable
  | .error failure => return .error failure

/-- Access to the files of the machine. -/
def machineFiles : FileAccess IO where
  status := machineStatus
  read := readMachineFile
  write path octets := atMachinePath path do IO.FS.writeBinFile path ⟨octets.toArray⟩

/-- The platform of the machine, told by a directory that only one of the platforms has. -/
def machinePlatform : IO String := do
  match ← machineStatus "/System/Library/CoreServices" with
  | .ok .directory => return "darwin"
  | _ => return "linux"

end MicroC.CommandLine

open MicroC.CommandLine in
/-- Compile the file that the arguments name. -/
def main (arguments : List String) : IO UInt32 := do
  let target ← IO.getEnv "SUBC_TARGET"
  let debug ← IO.getEnv "SUBC_DEBUG"
  let settings := [("SUBC_TARGET", target), ("SUBC_DEBUG", debug)]
  let surroundings : Surroundings :=
    { setting? := fun name => (settings.lookup name).join, platform := ← machinePlatform }
  let outcome ← run machineFiles surroundings arguments
  match outcome with
  | .error failure => (← IO.getStderr).putStr (told failure.message)
  | .ok report =>
      (← IO.getStderr).putStr report.stderr
      (← IO.getStdout).putStr report.stdout
  return UInt32.ofNat (exitStatus outcome)
