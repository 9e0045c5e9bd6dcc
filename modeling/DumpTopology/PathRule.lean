import DumpTopology.PathGlob
import DumpTopology.Regex.Template
import DumpTopology.Regex.FaultText
import DumpTopology.SourceFile
import DumpTopology.TableName

/-!
# Path rules

A path rule classifies the paths that its pattern matches. The pattern is a regular
pattern, or a path glob written as one; a rule has exactly one of them. The rule's other
fields are templates over the match: the kind, the schema, the table, the sort key and
the codec.

Applying a rule expands its kind first: `ignore`, in any ASCII case, drops the path.
Otherwise the kind must name a kind and the expanded codec a codec, in that order. A
database declaration is named by its schema alone. A sort key of ASCII digits is padded
with zeros to twenty characters, so that byte order of keys is numeric order.

A router tries its rules in order, and the first whose pattern matches somewhere in the
path decides. The built-in rules follow the dump naming scheme `db-schema-create.sql`,
`db.table-schema.sql` and `db.table[.part].format[.codec]`, in any letter case.
-/
namespace DumpTopology

/-- A path rule as configured. -/
structure PathRule where
  pattern : Option String := none
  path : Option String := none
  schema : String := ""
  table : String := ""
  kind : String
  key : String := ""
  compression : String := ""
  deriving BEq, DecidableEq, Repr, Inhabited

/-- What a rule says about a path. -/
structure Placement where
  name : TableName
  kind : FileKind
  compression : Compression
  sortKey : String
  deriving BEq, DecidableEq, Repr, Inhabited

/-- The width that numeric sort keys are padded to. -/
def sortKeyWidth : Nat := 20

/-- A key of ASCII digits, padded on the left with zeros to `sortKeyWidth`; any other key
unchanged. -/
def padSortKey (key : String) : String :=
  if !key.isEmpty && key.all Char.isDigit then
    String.ofList (List.replicate (sortKeyWidth - key.length) '0') ++ key
  else key

/-- The built-in rules of the dump naming scheme. -/
def defaultPathRules : List PathRule := [
  { pattern := some "(?i).*(-schema-trigger|-schema-post)\\.sql$", kind := "ignore" },
  { pattern := some "(?i)^(?:[^/]*/)*([^/.]+)-schema-create\\.sql$",
    schema := "$\x7b1\x7d", kind := "schema-schema" },
  { pattern := some "(?i)^(?:[^/]*/)*([^/.]+)\\.(.*?)-schema\\.sql$",
    schema := "$\x7b1\x7d", table := "$\x7b2\x7d", kind := "table-schema" },
  { pattern := some "(?i)^(?:[^/]*/)*([^/.]+)\\.(.*?)(?:\\.([0-9]+))?\\.(sql|csv|parquet)(?:\\.(\\w+))?$",
    schema := "$\x7b1\x7d", table := "$\x7b2\x7d", kind := "$\x7b4\x7d", key := "$\x7b3\x7d",
    compression := "$\x7b5\x7d" }]

/-- A rule with its compiled pattern. -/
structure CompiledPathRule where
  rule : PathRule
  pattern : Regex.Pattern
  deriving Inhabited

namespace PathRule

/-- The pattern text of a rule: its pattern, or its path glob written as one. -/
def source (r : PathRule) : Except RuleFault String :=
  match r.pattern, r.path with
  | some p, none => .ok p
  | none, some g => pathGlobPattern g
  | _, _ => .error .missingMatcher

/-- Compiles a rule; a pattern that does not compile is an invalid pattern. -/
def compile (r : PathRule) : Except RuleFault CompiledPathRule := do
  let src ← r.source
  match Regex.Pattern.compile src with
  | .ok re => return ⟨r, re⟩
  | .error e => .error (.invalidPattern src (e.render src))

end PathRule

/-- Whether a text is `ignore` in any ASCII case. -/
def isIgnoreKind (s : String) : Bool := s.toLower == "ignore"

namespace CompiledPathRule

/-- What the rule says about a match. -/
def apply (r : CompiledPathRule) (caps : Regex.Captures) : Except RuleFault (Option Placement) := do
  let kindText := caps.expand r.rule.kind
  if isIgnoreKind kindText then return none
  let some kind := FileKind.parse? kindText | .error (.unknownFileKind kindText)
  let codecText := caps.expand r.rule.compression
  let some codec := Compression.parse? codecText | .error (.unknownCompression codecText)
  let name := match kind with
    | .databaseSchema => TableName.schemaOnly (caps.expand r.rule.schema)
    | _ => ⟨caps.expand r.rule.schema, caps.expand r.rule.table⟩
  return some ⟨name, kind, codec, padSortKey (caps.expand r.rule.key)⟩

end CompiledPathRule

/-- Compiled path rules in the order they are tried. -/
structure PathRouter where
  rules : List CompiledPathRule
  deriving Inhabited

namespace PathRouter

/-- Compiles the given rules, followed by the built-in ones when asked. -/
def new (rules : List PathRule) (withDefaults : Bool) : Except RuleFault PathRouter :=
  PathRouter.mk <$> (rules ++ if withDefaults then defaultPathRules else []).mapM PathRule.compile

/-- The first rule whose pattern matches the path, with its match. -/
def firstMatch : List CompiledPathRule → String → Option (CompiledPathRule × Regex.Captures)
  | [], _ => none
  | r :: rest, path =>
    match r.pattern.captures path with
    | some caps => some (r, caps)
    | none => firstMatch rest path

/-- Classifies a path: `none` when no rule matches or the matching rule ignores it. -/
def route (router : PathRouter) (path : String) : Except RuleFault (Option Placement) :=
  match firstMatch router.rules path with
  | some (r, caps) => r.apply caps
  | none => .ok none

end PathRouter

end DumpTopology
