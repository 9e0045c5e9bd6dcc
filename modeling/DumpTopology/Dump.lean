import DumpTopology.Discovery
import DumpTopology.Config.Basic
import DumpTopology.Extract

/-!
# Dumps

A dump is what the discovery of a configured store gives: the store, its topology in
load order, and the character set of its schema files.

The configuration makes the parts of the discovery in this order, and the first fault
wins: the character set, the consistency checks, the rename rules, the filter, the path
rules. The filter is the older lists when any is given, otherwise the rule list; it ignores
case unless names are case sensitive. Rename rules follow the same case setting. Schema
statements that cannot be extracted read as the empty text.
-/
namespace DumpTopology

namespace DiscoveryConfig

/-- The fault of a part that does not compile. -/
def invalid (what : String) (e : RuleFault) : DiscoveryFault := .config s!"invalid {what}: {e.message}"

/-- The filter of the configuration. -/
def nameFilter (c : DiscoveryConfig) : Except DiscoveryFault NameFilter := do
  let (what, form) ← if c.hasLegacyList then
      pure ("black-white list", FilterForm.lists <$> ListFilter.new c.blackWhiteList)
    else pure ("table filter", FilterForm.rules <$> RuleFilter.parse c.source.filterRules)
  let form ← form.mapError (invalid what)
  if c.source.caseSensitive then return ⟨form, false⟩
  else (NameFilter.caseInsensitive form).mapError (invalid what)

/-- The parts of the discovery the configuration asks for. -/
def discovery (c : DiscoveryConfig) : Except DiscoveryFault Discovery := do
  c.validate
  let renamer ← if c.routes.isEmpty then pure none
    else some <$> (Renamer.compile c.routes c.source.caseSensitive).mapError (invalid "route rule")
  let filter ← c.nameFilter
  let router ← (PathRouter.new c.source.files c.source.usesDefaultFileRules).mapError
    (invalid "file route rule")
  return { router, filter, renamer, schemaMode := !c.source.noSchema }

end DiscoveryConfig

/-- A discovered dump. -/
structure Dump where
  store : Store
  topology : Topology
  charset : Charset

namespace Dump

/-- Discovers a store as the configuration asks. -/
def discover (c : DiscoveryConfig) (s : Store) (cancelled : Bool) : Except DiscoveryFault Dump := do
  let charset ← c.charset
  let d ← c.discovery
  let topology ← d.discover s cancelled
  return ⟨s, topology, charset⟩

/-- The statements of a schema file, or the empty text when there is none or they cannot
be extracted. -/
def schemaText (d : Dump) : Option SourceFile → String
  | none => ""
  | some f => (d.store.exportStatement f d.charset).toOption.getD ""

/-- The statements of a table's schema file. -/
def tableSchema (d : Dump) (t : TableMeta) : String := d.schemaText t.schemaFile

/-- The statements of a database's schema file. -/
def databaseSchema (d : Dump) (db : DatabaseMeta) : String := d.schemaText db.schemaFile

/-- A text in double quotes with quotes, backslashes and control characters escaped. -/
def quoted (s : String) : String :=
  let escape (c : Char) : String :=
    if c == '"' then "\\\"" else if c == '\\' then "\\\\"
    else if c == '\n' then "\\n" else if c == '\r' then "\\r" else if c == '\t' then "\\t"
    else if c == '\x00' then "\\0"
    else if c.toNat < 32 || c.toNat == 127 then
      "\\u" ++ "\x7b" ++ String.ofList (Nat.toDigits 16 c.toNat) ++ "\x7d"
    else c.toString
  "\"" ++ String.join (s.toList.map escape) ++ "\""

/-- A one-line summary: the location, the number of databases and the character set. -/
def summary (d : Dump) : String :=
  s!"DumpLoader \x7b location: {quoted d.store.location}, databases: {d.topology.databases.length}, charset: {d.charset.title} \x7d"

end Dump

end DumpTopology
