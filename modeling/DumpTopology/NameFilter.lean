import DumpTopology.Wildcard
import DumpTopology.Text.Blank

/-!
# Name filters

A filter decides which schemas and tables a discovery keeps. It comes in two forms.

*Rule lists* are lines `schema.table` of two wildcards, split at the first dot. A line
that starts with `!` excludes what it matches. The last line that matches decides, and a
name that no line matches is excluded. Blank lines and lines starting with `#` are skipped.
A schema is kept when the last line that bears on it is positive. A negative line bears on
a schema only when its table wildcard is exactly `*`, because only then does it exclude
every table of the schema.

*Do and ignore lists* keep what a do list names, if there is one, and otherwise keep
what no ignore list names. Do-table entries scope by their schema wildcard: within the
schemas they name, they decide alone.

Either form can ignore case. Its patterns are then lowercased and compiled again, which
may fail where the patterns as written compiled, and every queried name is lowercased.
-/
namespace DumpTopology

/-- A line of a rule list: its polarity and the wildcards for schema and table. -/
structure FilterRule where
  positive : Bool
  schema : Wildcard
  table : Wildcard
  deriving Inhabited

namespace FilterRule

/-- Splits a text at its first occurrence of a character. -/
def splitFirst (s : String) (c : Char) : Option (String × String) :=
  let cs := s.toList
  match cs.findIdx? (· == c) with
  | some i => some (String.ofList (cs.take i), String.ofList (cs.drop (i + 1)))
  | none => none

/-- Reads a rule from a trimmed line. -/
def parse (line : String) : Except RuleFault FilterRule := do
  let (positive, body) :=
    if line.startsWith "!" then (false, Text.trimBlank (String.ofList (line.toList.drop 1)))
    else (true, line)
  match splitFirst body '.' with
  | none => .error (.invalidPattern line "expected `schema.table`")
  | some (s, t) => return ⟨positive, ← Wildcard.compile s false, ← Wildcard.compile t false⟩

/-- The line that reads back as the rule. -/
def toLine (r : FilterRule) : String :=
  (if r.positive then "" else "!") ++ r.schema.source ++ "." ++ r.table.source

end FilterRule

/-- A rule list: the last matching rule decides. -/
structure RuleFilter where
  rules : List FilterRule
  deriving Inhabited

namespace RuleFilter

/-- Whether a line counts: not blank and not a comment. -/
def isRuleLine (line : String) : Bool := !line.isEmpty && !line.startsWith "#"

/-- Reads the rules of a list of lines. -/
def parse (lines : List String) : Except RuleFault RuleFilter :=
  RuleFilter.mk <$> ((lines.map Text.trimBlank).filter isRuleLine).mapM FilterRule.parse

/-- The decision on a schema: the last rule that matches it and either is positive or
excludes all its tables. -/
def matchSchema (f : RuleFilter) (schema : String) : Bool :=
  match f.rules.reverse.find? (fun r => r.schema.accepts schema && (r.positive || r.table.source == "*")) with
  | some r => r.positive
  | none => false

/-- The decision on a table: the last rule that matches both names. -/
def matchTable (f : RuleFilter) (schema table : String) : Bool :=
  match f.rules.reverse.find? (fun r => r.schema.accepts schema && r.table.accepts table) with
  | some r => r.positive
  | none => false

/-- The rules read again from their lowercased lines. -/
def foldCase (f : RuleFilter) : Except RuleFault RuleFilter :=
  parse (f.rules.map fun r => Text.lowercase r.toLine)

end RuleFilter

/-- A table entry of a do or ignore list. -/
structure TableRule where
  dbName : String
  tblName : String
  deriving BEq, Repr, Inhabited

/-- Do and ignore lists of schemas and tables. -/
structure ReplicationRules where
  doDbs : List String := []
  ignoreDbs : List String := []
  doTables : List TableRule := []
  ignoreTables : List TableRule := []
  deriving BEq, Repr, Inhabited

/-- Whether all four lists are empty. -/
def ReplicationRules.isEmpty (r : ReplicationRules) : Bool :=
  r.doDbs.isEmpty && r.ignoreDbs.isEmpty && r.doTables.isEmpty && r.ignoreTables.isEmpty

/-- Compiled do and ignore lists, with the lists they came from. -/
structure ListFilter where
  rules : ReplicationRules
  doDbs : List Wildcard
  ignoreDbs : List Wildcard
  doTables : List (Wildcard × Wildcard)
  ignoreTables : List (Wildcard × Wildcard)
  deriving Inhabited

namespace ListFilter

/-- Compiles the lists in their order. -/
def new (r : ReplicationRules) : Except RuleFault ListFilter := do
  let dbs (l : List String) := l.mapM fun p => Wildcard.compile p false
  let tables (l : List TableRule) := l.mapM fun t => do
    return (← Wildcard.compile t.dbName false, ← Wildcard.compile t.tblName false)
  return ⟨r, ← dbs r.doDbs, ← dbs r.ignoreDbs, ← tables r.doTables, ← tables r.ignoreTables⟩

/-- The decision on a schema. -/
def matchSchema (f : ListFilter) (schema : String) : Bool :=
  if !f.doDbs.isEmpty || !f.doTables.isEmpty then
    f.doDbs.any (·.accepts schema) || f.doTables.any (·.1.accepts schema)
  else !f.ignoreDbs.any (·.accepts schema)

/-- The decision on a table. -/
def matchTable (f : ListFilter) (schema table : String) : Bool :=
  if !f.matchSchema schema then false
  else
    match f.doTables.filter (·.1.accepts schema) with
    | [] => !f.ignoreTables.any fun t => t.1.accepts schema && t.2.accepts table
    | inScope => inScope.any (·.2.accepts table)

/-- The lists compiled again from their lowercased texts. -/
def foldCase (f : ListFilter) : Except RuleFault ListFilter :=
  let lower (l : List String) := l.map Text.lowercase
  let lowerTables (l : List TableRule) :=
    l.map fun t => ⟨Text.lowercase t.dbName, Text.lowercase t.tblName⟩
  new ⟨lower f.rules.doDbs, lower f.rules.ignoreDbs, lowerTables f.rules.doTables,
    lowerTables f.rules.ignoreTables⟩

end ListFilter

/-- The two forms of filter. -/
inductive FilterForm
  | rules (f : RuleFilter)
  | lists (f : ListFilter)
  deriving Inhabited

namespace FilterForm

/-- The decision on a schema. -/
def matchSchema : FilterForm → String → Bool
  | .rules f, s => f.matchSchema s
  | .lists f, s => f.matchSchema s

/-- The decision on a table. -/
def matchTable : FilterForm → String → String → Bool
  | .rules f, s, t => f.matchTable s t
  | .lists f, s, t => f.matchTable s t

/-- The form compiled again from lowercased patterns. -/
def foldCase : FilterForm → Except RuleFault FilterForm
  | .rules f => .rules <$> f.foldCase
  | .lists f => .lists <$> f.foldCase

end FilterForm

/-- A name filter: a form, and whether queried names are lowercased first. -/
structure NameFilter where
  form : FilterForm
  lowerQueries : Bool := false
  deriving Inhabited

namespace NameFilter

/-- A filter that ignores case: the form with lowercased patterns, queried with
lowercased names. -/
def caseInsensitive (form : FilterForm) : Except RuleFault NameFilter := do
  return ⟨← form.foldCase, true⟩

/-- A name as queried. -/
def query (f : NameFilter) (s : String) : String := if f.lowerQueries then Text.lowercase s else s

/-- Whether a schema is kept. -/
def matchSchema (f : NameFilter) (schema : String) : Bool := f.form.matchSchema (f.query schema)

/-- Whether a table is kept. -/
def matchTable (f : NameFilter) (schema table : String) : Bool :=
  f.form.matchTable (f.query schema) (f.query table)

end NameFilter

end DumpTopology
