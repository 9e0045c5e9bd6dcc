import DumpTopology.Cli.Args

/-!
# Help texts

The help of the tool and of each command: what it does, how it is called, its commands,
its arguments and its options, each section a column of names and a column of
descriptions. Options are listed by their place in their own command, ties broken by
their short name (lowercase before uppercase) or else their long name, so the global
options fall in among a command's own; help comes last. A description that does not fit
in a hundred columns wraps at spaces under its column.
-/
namespace DumpTopology.Cli

/-- The width of the lines of help. -/
def helpWidth : Nat := 100

/-- The name of the program. -/
def programName : String := "dumpscout"

/-- The name column of an option: short and long names and the placeholder. -/
def OptionSpec.column (o : OptionSpec) : String :=
  let short := match o.short with
    | some c => s!"-{c}, "
    | none => "    "
  let value := match o.value with
    | some v => s!" <{v}>"
    | none => ""
  short ++ "--" ++ o.long ++ value

/-- The description of an option; the configuration path also names the environment
variable that gives it, with the value that variable has. -/
def OptionSpec.describe (o : OptionSpec) (configVar : Option String) : String :=
  let shown := configVar.getD ""
  if o.flag == .config then o.help ++ s!" [env: DUMPSCOUT_CONFIG={shown}]" else o.help

/-- The key that orders options: their place, then a short name (lowercase first), or
else the long name. -/
def OptionSpec.sortKey (o : OptionSpec) (place : Nat) : Nat × String :=
  match o.short with
  | some c => (place, String.ofList [c.toLower, if c.isLower then '0' else '1'])
  | none => (place, o.long)

/-- Whether one key orders before another. -/
def keyBefore (a b : Nat × String) : Bool := a.1 < b.1 || (a.1 == b.1 && a.2 < b.2)

/-- Inserts into a list ordered by key, after the entries with the same key. -/
def insertByKey {α : Type} (e : (Nat × String) × α) : List ((Nat × String) × α) → List ((Nat × String) × α)
  | [] => [e]
  | f :: rest => if keyBefore e.1 f.1 then e :: f :: rest else f :: insertByKey e rest

/-- The options of a command in the order help lists them. -/
def listedOptions (own : List OptionSpec) : List OptionSpec :=
  let placed := own.zipIdx ++ globalOptions.zipIdx ++ [(helpOption, 999)]
  ((placed.map fun (o, i) => (o.sortKey i, o)).foldl (fun acc e => insertByKey e acc) []).map (·.2)

/-- Greedy wrapping of words into lines of at most `width` columns; a word longer than
the width has a line of its own. -/
def wrapWords (width : Nat) : List String → List String → String → List String
  | [], done, line => (if line.isEmpty then done else done ++ [line])
  | w :: rest, done, line =>
    if line.isEmpty then wrapWords width rest done w
    else if line.length + 1 + w.length ≤ width then wrapWords width rest done (line ++ " " ++ w)
    else wrapWords width rest (done ++ [line]) w

/-- The lines of a section: each name padded to the widest, then its description,
wrapped under the description column. -/
def columns (entries : List (String × String)) : List String :=
  let widest := (entries.map (·.1.length)).foldl max 0
  let indent := widest + 4
  entries.map fun (name, about) =>
    let pad := String.ofList (List.replicate (widest - name.length + 2) ' ')
    let lines := wrapWords (helpWidth - indent) (about.splitOn " ") [] ""
    let continued := (lines.drop 1).map fun l => "\n" ++ String.ofList (List.replicate indent ' ') ++ l
    "  " ++ name ++ pad ++ String.join (lines.take 1 ++ continued)

/-- The options section of a command. -/
def optionsSection (own : List OptionSpec) (configVar : Option String) : String :=
  "Options:\n" ++ "\n".intercalate (columns ((listedOptions own).map fun o => (o.column, o.describe configVar)))

/-- How an argument is written: required ones in angle brackets, others in square ones. -/
def argumentName (a : String × Bool) : String := if a.2 then s!"<{a.1}>" else s!"[{a.1}]"

/-- The help of the tool. -/
def toolHelp (configVar : Option String) : String :=
  let cmds := (commands.map fun c => (c.name, c.about)) ++ [("help", helpAbout)]
  toolAbout ++ "\n\nUsage: " ++ programName ++ " [OPTIONS] <COMMAND>\n\nCommands:\n" ++
    "\n".intercalate (columns cmds) ++ "\n\n" ++ optionsSection [] configVar ++ "\n"

/-- The help of a command. -/
def commandHelp (c : CommandSpec) (configVar : Option String) : String :=
  let args := c.arguments.map argumentName
  let usage := "Usage: " ++ programName ++ " " ++ c.name ++ " [OPTIONS]" ++
    String.join (args.map (" " ++ ·))
  let arguments := if args.isEmpty then ""
    else "Arguments:\n" ++ "\n".intercalate (columns (args.map (·, ""))) ++ "\n\n"
  c.about ++ "\n\n" ++ usage ++ "\n\n" ++ arguments ++ optionsSection c.options configVar ++ "\n"

/-- The help of the `help` command. -/
def helpCommandHelp : String :=
  helpAbout ++ "\n\nUsage: " ++ programName ++ " help [COMMAND]...\n\nArguments:\n" ++
    "  [COMMAND]...  Print help for the subcommand(s)\n"

end DumpTopology.Cli
