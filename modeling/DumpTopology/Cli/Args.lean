/-!
# Command lines

The command line of the tool: global flags, then one of three commands with their own
options and arguments. Reading it follows the conventions of the common argument readers:

* a long option is `--name`, its value attached after `=` or in the next word;
* short options may be grouped (`-vf x`), and a short option's value may be attached
  (`-fdb.*`, `-f=db.*`);
* a word that starts with `-`, other than `-` alone, is never taken as a value, so an
  option followed by one lacks its value; a command name is not a value either;
* after `--` every word is an argument;
* an option or flag given twice is refused, except the repeatable filter;
* a path may not be empty, whether from the line or from the environment;
* the global flags may come before or after the command; a configuration path given
  after the command wins over one given before it, and either over the environment;
* `-h`, `--help` or the `help` command ask for help instead of a run, provided nothing
  before them on the line was refused.

A line is refused as soon as a word is refused; what is missing at the end (a command,
an argument, an option's value) is found after the command's words are read, and the
command's own words are read before the end of the global part is checked.
-/
namespace DumpTopology.Cli

/-- The options of the tool. -/
inductive Flag
  | verbose
  | logFile
  | config
  | sourceDir
  | noSchema
  | caseSensitive
  | filter
  | files
  | json
  | help
  deriving BEq, DecidableEq, Repr, Inhabited

/-- How an option is written and what it takes. -/
structure OptionSpec where
  flag : Flag
  short : Option Char
  long : String
  /-- The placeholder of its value; `none` for an option that takes no value. -/
  value : Option String := none
  /-- Whether the option may be given more than once. -/
  repeatable : Bool := false
  /-- Whether the value is a path, which may not be empty. -/
  isPath : Bool := false
  /-- What the option does, for the help text. -/
  help : String
  deriving Inhabited

/-- The options every command takes. -/
def globalOptions : List OptionSpec :=
  [{ flag := .verbose, short := some 'v', long := "verbose",
     help := "Enable verbose logging (info/debug to stderr)" },
   { flag := .logFile, short := none, long := "log-file",
     help := "Also write logs to ~/.dumpscout/logs" },
   { flag := .config, short := some 'c', long := "config", value := some "CONFIG", isPath := true,
     help := "TOML configuration file" }]

/-- The option that asks for help. -/
def helpOption : OptionSpec :=
  { flag := .help, short := some 'h', long := "help", help := "Print help" }

/-- The options that say where and how to discover. -/
def sourceOptions : List OptionSpec :=
  [{ flag := .sourceDir, short := some 'd', long := "source-dir", value := some "SOURCE_DIR",
     isPath := true, help := "Dump directory (overrides source.dir)" },
   { flag := .noSchema, short := none, long := "no-schema",
     help := "Accept data files without schema declarations" },
   { flag := .caseSensitive, short := none, long := "case-sensitive",
     help := "Match table filters and routes case-sensitively" },
   { flag := .filter, short := some 'f', long := "filter", value := some "FILTERS", repeatable := true,
     help := "Table filter rule, e.g. \"db.*\" or \"!db.tmp_*\". Repeatable" }]

/-- A command: its name, what it does, its own options and its arguments, each with
whether it is required. -/
structure CommandSpec where
  name : String
  about : String
  options : List OptionSpec
  arguments : List (String × Bool) := []
  deriving Inhabited

/-- The commands of the tool. -/
def commands : List CommandSpec :=
  [{ name := "discover", about := "Discover databases, tables and data files",
     options := sourceOptions ++
       [{ flag := .files, short := none, long := "files", help := "List every data file under its table" },
        { flag := .json, short := none, long := "json", help := "Output as JSON" }] },
   { name := "schema",
     about := "Print the CREATE statement of a database, or of a table when given",
     options := sourceOptions, arguments := [("DATABASE", true), ("TABLE", false)] },
   { name := "check", about := "Validate configuration", options := [] }]

/-- What the tool does as a whole. -/
def toolAbout : String := "Discover the topology of a logical database dump"

/-- What the `help` command does. -/
def helpAbout : String := "Print this message or the help of the given subcommand(s)"

/-- The options a command reads: its own, the global ones, and help. -/
def CommandSpec.allOptions (c : CommandSpec) : List OptionSpec :=
  c.options ++ globalOptions ++ [helpOption]

/-- Why reading a line stops before its end. -/
inductive Stop
  /-- A word is refused. -/
  | refuse (message : String)
  /-- Help is asked for. -/
  | askHelp
  deriving Inhabited

/-- What the words of one command have given: option values in the order given (an
option without a value gives the empty text), arguments, the option still waiting for
its value, and whether `--` was passed. -/
structure Reading where
  values : List (Flag × String) := []
  arguments : List String := []
  pending : Option OptionSpec := none
  trailing : Bool := false
  deriving Inhabited

namespace Reading

/-- Whether an option was given. -/
def has (r : Reading) (f : Flag) : Bool := r.values.any (·.1 == f)

/-- The values given to an option. -/
def valuesOf (r : Reading) (f : Flag) : List String :=
  r.values.filterMap fun (g, v) => if g == f then some v else none

/-- The dashed name of an option, with its placeholder. -/
def optionName (o : OptionSpec) : String :=
  match o.value with
  | some v => s!"--{o.long} <{v}>"
  | none => s!"--{o.long}"

/-- The refusal of an option left without its value. -/
def missingValue (o : OptionSpec) : Stop :=
  .refuse s!"a value is required for '{optionName o}' but none was supplied"

/-- Records an option, refusing a second one unless it repeats. -/
def record (r : Reading) (o : OptionSpec) (v : String) : Except Stop Reading :=
  if r.has o.flag && !o.repeatable then
    .error (.refuse s!"the argument '{optionName o}' cannot be used multiple times")
  else if o.isPath && v.isEmpty then .error (missingValue o)
  else .ok { r with values := r.values ++ [(o.flag, v)], pending := none }

/-- Takes a word as an argument, refusing one past the command's arguments. -/
def argument (r : Reading) (arity : Nat) (w : String) : Except Stop Reading :=
  if r.arguments.length < arity then .ok { r with arguments := r.arguments ++ [w] }
  else .error (.refuse s!"unexpected argument '{w}' found")

/-- Refuses an option left without its value. -/
def settled (r : Reading) : Except Stop Unit :=
  match r.pending with
  | some o => .error (missingValue o)
  | none => .ok ()

/-- Reads an option whose value, if it has one, is attached or comes next. -/
def give (r : Reading) (o : OptionSpec) (attached : Option String) : Except Stop Reading :=
  if o.flag == .help then .error .askHelp
  else
    match o.value, attached with
    | none, none => r.record o ""
    | none, some v =>
      .error (.refuse s!"unexpected value '{v}' for '{optionName o}' found; no more were expected")
    | some _, some v => r.record o v
    | some _, none => .ok { r with pending := some o }

/-- Reads a group of short options, the characters after the dash. -/
def cluster (opts : List OptionSpec) (r : Reading) : List Char → Except Stop Reading
  | [] => .ok r
  | c :: cs =>
    match opts.find? (·.short == some c) with
    | none => .error (.refuse s!"unexpected argument '-{c}' found")
    | some o =>
      if o.flag == .help then .error .askHelp
      else
        match o.value with
        | none => do cluster opts (← r.record o "") cs
        | some _ =>
          match cs with
          | [] => .ok { r with pending := some o }
          | '=' :: v => r.record o (String.ofList v)
          | v => r.record o (String.ofList v)

end Reading

/-- The name and value of a long option word, after its dashes. -/
def splitLong (body : String) : String × Option String :=
  match body.splitOn "=" with
  | [] => (body, none)
  | [name] => (name, none)
  | name :: rest => (name, some ("=".intercalate rest))

/-- Reads the words of one command with its options, its number of arguments and the
names of its commands. Stops at a command name, giving it with the words after it. -/
def scan (opts : List OptionSpec) (arity : Nat) (subs : List String) :
    List String → Reading → Except Stop (Reading × Option (String × List String))
  | [], r => .ok (r, none)
  | w :: rest, r =>
    if r.trailing then do scan opts arity subs rest (← r.argument arity w)
    else if subs.contains w then .ok (r, some (w, rest))
    else if w.startsWith "-" && w != "-" && r.pending.isSome then
      r.settled.map fun () => (r, none)
    else if w == "--" then scan opts arity subs rest { r with trailing := true }
    else if w.startsWith "--" then
      let (name, attached) := splitLong (w.drop 2).toString
      match opts.find? (·.long == name) with
      | none => .error (.refuse s!"unexpected argument '--{name}' found")
      | some o => do scan opts arity subs rest (← r.give o attached)
    else if w.startsWith "-" && w != "-" then do
      scan opts arity subs rest (← Reading.cluster opts r (w.drop 1).toString.toList)
    else
      match r.pending with
      | some o => do scan opts arity subs rest (← r.record o w)
      | none => do scan opts arity subs rest (← r.argument arity w)

end DumpTopology.Cli
