import DumpTopology.Dump
import DumpTopology.Encode
import DumpTopology.JsonText
import DumpTopology.Config.Load
import DumpTopology.Store.Tree
import DumpTopology.Cli.Line
import DumpTopology.Cli.LogFilter
import DumpTopology.Cli.Grid
import DumpTopology.Cli.Size

/-!
# Runs of the tool

A run reads its command line, sets up logging, loads the configuration and carries out
the command, and ends with an exit status and the text it wrote:

* a refused line exits with 2, and help exits with 0;
* logging only speaks here when it cannot set up its file (a warning) or when the log
  filter has directives it ignores, and never stops the run;
* a failed command writes `Error:` and its chain of causes joined by `: ` and exits
  with 1;
* a size sum past the limit stops the program as an arithmetic overflow, with 101.

Everything the run needs from the machine goes through a `Host`, so a run is a value of
any monad that can provide one; a directory tree held as state is one such host.
-/
namespace DumpTopology.Cli

/-- What the tool needs from the machine it runs on, in the monad `m` of its effects. -/
structure Host (m : Type → Type) where
  /-- The bytes of a file, or the system's account of why it cannot be read. -/
  readFile : String → m (Except String ByteArray)
  /-- Makes a directory with its missing parents. -/
  createDirAll : String → m (Except String Unit)
  /-- The store of a dump directory. -/
  openStore : String → m (Except DiscoveryFault Store)

/-- The environment variables the tool reads. -/
structure Environment where
  /-- The log filter, which says which log lines are written. -/
  logFilter : Option String := none
  /-- The configuration path used when the line gives none. -/
  configPath : Option String := none
  /-- The tool's home directory, which holds the log directory. -/
  home : Option String := none
  deriving Inhabited

/-- What a run leaves: its exit status and what it wrote to standard output and error. -/
structure Outcome where
  exit : Nat
  stdout : String := ""
  stderr : String := ""
  deriving Repr, Inhabited

/-- How a command fails: an error with its chain of causes, or a size sum past the
limit, which stops the program outright. -/
inductive Failure
  | error (chain : List String)
  | overflow
  deriving Repr, Inhabited

/-- What a command printed, and how it failed after printing it, if it did. -/
structure Printed where
  out : String := ""
  failure : Option Failure := none
  deriving Inhabited

/-- The line of an error and its causes. -/
def errorText (chain : List String) : String := "Error: " ++ ": ".intercalate chain ++ "\n"

/-- The lines of a stop on an arithmetic overflow. -/
def overflowText : String :=
  "thread 'main' panicked at crates/dumpscout/src/builder.rs:150:13:\n" ++
    "attempt to add with overflow\n" ++
    "note: run with " ++ "\x60" ++ "RUST_BACKTRACE=1" ++ "\x60" ++
    " environment variable to display a backtrace\n"

/-- The account of a file that is not UTF-8. -/
def notUtf8 : String := "stream did not contain valid UTF-8"

/-- A path with a name joined under it. -/
def joinPath (dir name : String) : String :=
  if dir.isEmpty then name else if dir.endsWith "/" then dir ++ name else dir ++ "/" ++ name

/-- The settings of the line applied over the configuration: a directory replaces the
configured one, the flags add to the configured ones, and filters replace the configured
filter. -/
def SourceArgs.apply (a : SourceArgs) (c : DiscoveryConfig) : DiscoveryConfig :=
  let s := c.source
  let s := { s with dir := a.sourceDir.getD s.dir
                    noSchema := s.noSchema || a.noSchema
                    caseSensitive := s.caseSensitive || a.caseSensitive }
  let s := if a.filters.isEmpty then s else { s with filter := some a.filters }
  { c with source := s }

/-- The table of a topology: a row per table, and under it a row per data file when
asked. -/
def topologyGrid (t : Topology) (showFiles : Bool) : Grid :=
  { header := ["DATABASE", "TABLE", "FILES", "SIZE", "SCHEMA FILE"]
    rows := t.databases.flatMap fun db => db.tables.flatMap fun tb =>
      [db.name, tb.name, toString tb.dataFiles.length, formatSize tb.totalSize,
        (tb.schemaFile.map (·.path)).getD "-"] ::
      (if showFiles then
        tb.dataFiles.map fun f => ["", "  " ++ f.path, f.kind.describe, formatSize f.size, f.compression.name]
      else []) }

/-- The listing of a topology: its table and a line of totals. The table is printed
before the total size is summed. -/
def topologyPrinted (t : Topology) (showFiles : Bool) : Printed :=
  if t.isEmpty then { out := "No tables found.\n" }
  else
    let table := "\n".intercalate (topologyGrid t showFiles).render ++ "\n"
    match t.totalSize with
    | .error _ => { out := table, failure := some .overflow }
    | .ok total =>
      { out := table ++
          s!"{t.databases.length} database(s), {t.tableCount} table(s), {formatSize total}\n" }

section Running

variable {m : Type → Type} [Monad m]

/-- Reads the configuration file, if one is given. -/
def loadConfig (h : Host m) : Option String → ExceptT Failure m DiscoveryConfig
  | none => pure {}
  | some path => do
    let context := s!"Failed to load config: {path}"
    match ← h.readFile path with
    | .error e => throw (.error [context, s!"IO error: {e}", e])
    | .ok bytes =>
      match Text.decodeUtf8 bytes.toList with
      | .error _ => throw (.error [context, s!"IO error: {notUtf8}", notUtf8])
      | .ok text =>
        match DiscoveryConfig.ofToml text with
        | .error f => throw (.error (context :: f.chain))
        | .ok c => pure c

/-- Discovers the dump the configuration and the line name. -/
def openDump (h : Host m) (c : DiscoveryConfig) (a : SourceArgs) : ExceptT Failure m Dump := do
  let c := a.apply c
  let dir := c.source.dir
  let fail : DiscoveryFault → Failure
    | .sizeOverflow => .overflow
    | f => .error (s!"Failed to discover '{dir}'" :: f.chain)
  if dir.isEmpty then throw (fail (.config "source.dir is not set"))
  match ← h.openStore dir with
  | .error f => throw (fail f)
  | .ok store =>
    match Dump.discover c store false with
    | .error f => throw (fail f)
    | .ok d => pure d

/-- The schema statement a command asks for: of a table when one is named, else of the
database. -/
def schemaStatement (d : Dump) (database : String) : Option String → Except Failure String
  | some table =>
    match d.topology.table? database table with
    | some tb => .ok (d.tableSchema tb)
    | none => .error (.error ["table " ++ "\x60" ++ database ++ "\x60.\x60" ++ table ++ "\x60" ++ " not found"])
  | none =>
    match d.topology.database? database with
    | some db => .ok (d.databaseSchema db)
    | none => .error (.error ["database " ++ "\x60" ++ database ++ "\x60" ++ " not found"])

/-- Carries out a command. -/
def runCommand (h : Host m) (inv : Invocation) : ExceptT Failure m Printed := do
  let config ← loadConfig h inv.config
  match inv.command with
  | .discover a files json =>
    let d ← openDump h config a
    if json then return { out := Doc.pretty 0 d.topology.toDoc ++ "\n" }
    else return topologyPrinted d.topology files
  | .schema a database table =>
    let d ← openDump h config a
    let text ← liftExcept (schemaStatement d database table)
    if text.isEmpty then throw (.error ["no schema statement available"])
    return { out := text ++ "\n" }
  | .check =>
    match config.validate *> config.charset with
    | .error f => throw (.error f.chain)
    | .ok _ => return { out := "Configuration OK\n" }
where
  liftExcept {α : Type} : Except Failure α → ExceptT Failure m α
    | .ok a => pure a
    | .error f => throw f

/-- Sets up logging and gives what it writes: a warning when the log directory cannot be
made, else a notice for each directive of the log filter that is ignored, which only the
quiet console filter reads. -/
def loggingNotes (h : Host m) (env : Environment) (inv : Invocation) : m String := do
  let filterNotes := if inv.verbose then "" else (env.logFilter.map ignoredDirectives).getD ""
  if !inv.logFile then return filterNotes
  let warn (chain : List String) : String :=
    "Warning: failed to initialize logging: " ++
      ": ".intercalate ("Failed to ensure log directory" :: chain) ++ "\n"
  match env.home with
  | none => return warn ["Could not determine home directory"]
  | some home =>
    let logs := joinPath home "logs"
    match ← h.createDirAll logs with
    | .error e => return warn [s!"Failed to create logs directory: {logs}", e]
    | .ok () => return filterNotes

/-- The outcome of a command after the notes of logging. -/
def finish (notes : String) (p : Printed) : Outcome :=
  match p.failure with
  | none => { exit := 0, stdout := p.out, stderr := notes }
  | some (.error chain) => { exit := 1, stdout := p.out, stderr := notes ++ errorText chain }
  | some .overflow => { exit := 101, stdout := p.out, stderr := notes ++ overflowText }

/-- A run of the tool on a command line. -/
def run (h : Host m) (env : Environment) (words : List String) : m Outcome := do
  match readLine env.configPath words with
  | .refuse msg => return { exit := 2, stderr := s!"error: {msg}\n" }
  | .help text => return { exit := 0, stdout := text }
  | .run inv =>
    let notes ← loggingNotes h env inv
    match ← (runCommand h inv).run with
    | .ok p => return finish notes p
    | .error f => return finish notes { failure := some f }

end Running

/-- A directory tree as the machine: files are read from it, directories made in it,
and stores opened on it. -/
def treeHost : Host (StateM FileTree) where
  readFile path := do return ((← get).readAll path).mapError OsFault.message
  createDirAll path := do
    match (← get).createDirAll path with
    | .ok t => set t; return .ok ()
    | .error e => return .error e.message
  openStore dir := do return (← get).store dir

end DumpTopology.Cli
