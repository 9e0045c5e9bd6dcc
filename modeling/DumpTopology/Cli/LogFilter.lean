import DumpTopology.Text.Word

/-!
# Log filter directives

A log filter is a comma-separated list of directives; empty ones are skipped. A
directive names what it applies to and, after `=`, an optional level:

* the subject is one or two parts, each a run of word characters, `:` and `-` (a
  target), or a bracketed span `[…]` holding no `]`; two runs side by side are one run;
* a level is `trace`, `debug`, `info`, `warn`, `error` or `off` in any case, or a digit
  from `0` to `5`; a bare level is a directive too, and reads as a target here.

A directive that does not have this shape is ignored with a notice, in the order given.
-/
namespace DumpTopology.Cli

/-- Whether a text names a log level. -/
def isLevelName (s : String) : Bool :=
  ["trace", "debug", "info", "warn", "error", "off"].contains s.toLower ||
    ["0", "1", "2", "3", "4", "5"].contains s

/-- A character of a target. -/
def isTargetChar (c : Char) : Bool := Text.isWordChar c || c == ':' || c == '-'

/-- Where the reading of a directive's subject is: between parts, in a target run, or
in a span. -/
inductive SubjectMode
  | between
  | target
  | span

/-- The parts of a directive's subject, last first: `true` for a target run, `false` for
a span, with what follows them; `none` when a span is not closed. -/
def subjectParts : List Char → List Bool → SubjectMode → Option (List Bool × List Char)
  | [], _, .span => none
  | [], parts, _ => some (parts, [])
  | c :: rest, parts, .span =>
    if c == ']' then subjectParts rest parts .between else subjectParts rest parts .span
  | c :: rest, parts, mode =>
    if isTargetChar c then
      match mode with
      | .target => subjectParts rest parts .target
      | _ => subjectParts rest (true :: parts) .target
    else if c == '[' then subjectParts rest (false :: parts) .span
    else some (parts, c :: rest)

/-- Whether a directive has the shape of one. -/
def isDirective (s : String) : Bool :=
  match subjectParts s.toList [] .between with
  | none => false
  | some (parts, rest) =>
    let subject := 1 ≤ parts.length && parts.length ≤ 2
    let level := match rest with
      | [] => true
      | '=' :: name => name.isEmpty || isLevelName (String.ofList name)
      | _ => false
    subject && level

/-- The notices for the directives of a filter that are ignored. -/
def ignoredDirectives (filter : String) : String :=
  String.join (((filter.splitOn ",").filter (· != "")).filterMap fun d =>
    if isDirective d then none else some ("ignoring " ++ "\x60" ++ d ++ "\x60" ++ ": invalid filter directive\n"))

end DumpTopology.Cli
