import DumpTopology.Cli.Help

/-!
# Requests

A command line read into what it asks for: a run of one command with its settings, help,
or a refusal. The configuration path comes from the line after the command, else from
the line before it, else from the environment.
-/
namespace DumpTopology.Cli

/-- The settings that say where and how to discover. -/
structure SourceArgs where
  sourceDir : Option String := none
  noSchema : Bool := false
  caseSensitive : Bool := false
  filters : List String := []
  deriving Repr, Inhabited

/-- The commands with their settings. -/
inductive Command
  /-- Lists the topology, with the data files or as JSON. -/
  | discover (source : SourceArgs) (files json : Bool)
  /-- Prints the schema statement of a database, or of one of its tables. -/
  | schema (source : SourceArgs) (database : String) (table : Option String)
  /-- Checks the configuration. -/
  | check
  deriving Repr, Inhabited

/-- A run of the tool: the global settings and the command. -/
structure Invocation where
  verbose : Bool := false
  logFile : Bool := false
  config : Option String := none
  command : Command
  deriving Repr, Inhabited

/-- What a command line asks for. -/
inductive Request
  | run (inv : Invocation)
  | help (text : String)
  | refuse (message : String)
  deriving Repr, Inhabited

/-- The names the top of the line recognizes as commands. -/
def commandNames : List String := commands.map (·.name) ++ ["help"]

/-- The source settings of a command's reading. -/
def Reading.sourceArgs (r : Reading) : SourceArgs :=
  { sourceDir := (r.valuesOf .sourceDir).head?
    noSchema := r.has .noSchema
    caseSensitive := r.has .caseSensitive
    filters := r.valuesOf .filter }

/-- The request of the `help` command with the words after it. -/
def helpRequest (configVar : Option String) : List String → Request
  | [] => .help (toolHelp configVar)
  | [name] =>
    if name == "help" then .help helpCommandHelp
    else match commands.find? (·.name == name) with
      | some c => .help (commandHelp c configVar)
      | none => .refuse s!"unrecognized subcommand '{name}'"
  | _ :: next :: _ => .refuse s!"unrecognized subcommand '{next}'"

/-- Refuses a reading whose configuration path would come from an empty variable. -/
def checkConfigVar (configVar : Option String) (r : Reading) : Except Stop Unit :=
  if configVar == some "" && !r.has .config then .error (Reading.missingValue (globalOptions.getD 2 helpOption))
  else .ok ()

/-- The invocation of a command from its reading and the reading of the global part. -/
def invocation (configVar : Option String) (c : CommandSpec) (top sub : Reading) :
    Except Stop Invocation := do
  sub.settled
  checkConfigVar configVar sub
  let required := (c.arguments.filter (·.2)).length
  if sub.arguments.length < required then
    throw (.refuse "the following required arguments were not provided")
  top.settled
  checkConfigVar configVar top
  let command : Command :=
    if c.name == "discover" then .discover sub.sourceArgs (sub.has .files) (sub.has .json)
    else if c.name == "schema" then .schema sub.sourceArgs (sub.arguments.headD "") sub.arguments[1]?
    else .check
  let config := ((sub.valuesOf .config).head? <|> (top.valuesOf .config).head?) <|> configVar
  return { verbose := top.has .verbose || sub.has .verbose
           logFile := top.has .logFile || sub.has .logFile
           config, command }

/-- Reads a command line, given the configuration path the environment holds. -/
def readLine (configVar : Option String) (words : List String) : Request :=
  match scan (globalOptions ++ [helpOption]) 0 commandNames words {} with
  | .error (.refuse m) => .refuse m
  | .error .askHelp => .help (toolHelp configVar)
  | .ok (_, none) => .refuse s!"'{programName}' requires a subcommand but one was not provided"
  | .ok (_, some ("help", rest)) => helpRequest configVar rest
  | .ok (top, some (name, rest)) =>
    let c := (commands.find? (·.name == name)).getD default
    match scan c.allOptions c.arguments.length [] rest {} with
    | .error (.refuse m) => .refuse m
    | .error .askHelp => .help (commandHelp c configVar)
    | .ok (sub, _) =>
      match invocation configVar c top sub with
      | .ok inv => .run inv
      | .error (.refuse m) => .refuse m
      | .error .askHelp => .help (commandHelp c configVar)

end DumpTopology.Cli
