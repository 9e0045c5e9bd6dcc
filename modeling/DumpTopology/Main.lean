import DumpTopology.Cli.Run

/-!
# The command-line tool

Runs the tool on the machine: files are read and directories made through the operating
system, the environment gives the log filter, the configuration path and the home
directory (`DUMPSCOUT_HOME`, else `.dumpscout` in the user's home), and the outcome is
written to standard output and standard error, its status becoming the exit code.

Listing a directory is not among the operations this host offers, so on the machine a
dump directory is refused as one that cannot be listed; a directory tree held as a value
(`treeHost`) offers all of them.
-/
namespace DumpTopology.Cli

/-- The text the operating system gives for an error code. -/
def osErrorText : Nat → Option String
  | 2 => some "No such file or directory"
  | 13 => some "Permission denied"
  | 17 => some "File exists"
  | 20 => some "Not a directory"
  | 21 => some "Is a directory"
  | 40 => some "Too many levels of symbolic links"
  | _ => none

/-- The operating system code of an error, when it has one. -/
def ioErrorCode : IO.Error → Option UInt32
  | .alreadyExists _ c _ | .otherError c _ | .resourceBusy c _ | .resourceVanished c _
  | .unsupportedOperation c _ | .hardwareFault c _ | .unsatisfiedConstraints c _
  | .illegalOperation c _ | .protocolError c _ | .timeExpired c _ | .interrupted _ c _
  | .noFileOrDirectory _ c _ | .invalidArgument _ c _ | .permissionDenied _ c _
  | .resourceExhausted _ c _ | .inappropriateType _ c _ | .noSuchThing _ c _ => some c
  | _ => none

/-- An error in the words of the operating system, with its code. -/
def ioErrorText (e : IO.Error) : String :=
  match (ioErrorCode e).bind fun c => (osErrorText c.toNat).map (·, c) with
  | some (t, c) => s!"{t} (os error {c})"
  | none => toString e

/-- The machine as a host. -/
def systemHost : Host IO where
  readFile path := do
    match ← (IO.FS.readBinFile path).toBaseIO with
    | .ok b => return .ok b
    | .error e => return .error (ioErrorText e)
  createDirAll path := do
    match ← (IO.FS.createDirAll path).toBaseIO with
    | .ok () => return .ok ()
    | .error e => return .error (ioErrorText e)
  openStore dir := return .error (.listing dir "listing directories is not supported")

/-- The environment of the process. -/
def systemEnvironment : IO Environment := do
  let userHome := (← IO.getEnv "HOME").map (joinPath · ".dumpscout")
  let home := (← IO.getEnv "DUMPSCOUT_HOME") <|> userHome
  return { logFilter := ← IO.getEnv "RUST_LOG", configPath := ← IO.getEnv "DUMPSCOUT_CONFIG", home }

end DumpTopology.Cli

/-- Runs the tool on the command line. -/
def main (args : List String) : IO UInt32 := do
  let o ← DumpTopology.Cli.run DumpTopology.Cli.systemHost (← DumpTopology.Cli.systemEnvironment) args
  IO.print o.stdout
  IO.eprint o.stderr
  return o.exit.toUInt32
