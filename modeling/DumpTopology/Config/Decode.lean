import DumpTopology.Config.Basic
import DumpTopology.Shape

/-!
# Reading a configuration from a document

Every part of a configuration has a default except the kind of a path rule, the schema
pattern and target schema of a rename rule, and both names of a table rule.
-/
namespace DumpTopology

/-- Reads a path rule; its kind is required. -/
def PathRule.ofDoc (d : Doc) : Shaped PathRule := do
  let r ← d.asRecord "PathRule" 7
  return {
    pattern := ← r.read 0 "pattern" (some none) (Doc.asOption Doc.asString)
    path := ← r.read 1 "path" (some none) (Doc.asOption Doc.asString)
    schema := ← r.read 2 "schema" (some "") Doc.asString
    table := ← r.read 3 "table" (some "") Doc.asString
    kind := ← r.read 4 "type" none Doc.asString
    key := ← r.read 5 "key" (some "") Doc.asString
    compression := ← r.read 6 "compression" (some "") Doc.asString }

/-- Reads a rename rule; its schema pattern and target schema are required. -/
def RenameRule.ofDoc (d : Doc) : Shaped RenameRule := do
  let r ← d.asRecord "RenameRule" 4
  return {
    schemaPattern := ← r.read 0 "schema_pattern" none Doc.asString
    tablePattern := ← r.read 1 "table_pattern" (some "") Doc.asString
    targetSchema := ← r.read 2 "target_schema" none Doc.asString
    targetTable := ← r.read 3 "target_table" (some "") Doc.asString }

/-- Reads a table rule; both names are required. -/
def TableRule.ofDoc (d : Doc) : Shaped TableRule := do
  let r ← d.asRecord "TableRule" 2
  return {
    dbName := ← r.read 0 "db_name" none Doc.asString
    tblName := ← r.read 1 "tbl_name" none Doc.asString }

/-- Reads the do and ignore lists; each is empty when absent. -/
def ReplicationRules.ofDoc (d : Doc) : Shaped ReplicationRules := do
  let r ← d.asRecord "ReplicationRules" 4
  return {
    doDbs := ← r.read 0 "do_dbs" (some []) (Doc.asList Doc.asString)
    ignoreDbs := ← r.read 1 "ignore_dbs" (some []) (Doc.asList Doc.asString)
    doTables := ← r.read 2 "do_tables" (some []) (Doc.asList TableRule.ofDoc)
    ignoreTables := ← r.read 3 "ignore_tables" (some []) (Doc.asList TableRule.ofDoc) }

/-- Reads where and how to read a dump. -/
def SourceConfig.ofDoc (d : Doc) : Shaped SourceConfig := do
  let r ← d.asRecord "SourceConfig" 7
  return {
    dir := ← r.read 0 "dir" (some "") Doc.asString
    noSchema := ← r.read 1 "no_schema" (some false) Doc.asBool
    characterSet := ← r.read 2 "character_set" (some "auto") Doc.asString
    caseSensitive := ← r.read 3 "case_sensitive" (some false) Doc.asBool
    defaultFileRules := ← r.read 4 "default_file_rules" (some none) (Doc.asOption Doc.asBool)
    filter := ← r.read 5 "filter" (some none) (Doc.asOption (Doc.asList Doc.asString))
    files := ← r.read 6 "files" (some []) (Doc.asList PathRule.ofDoc) }

/-- Reads a discovery configuration; every part has a default. -/
def DiscoveryConfig.ofDoc (d : Doc) : Shaped DiscoveryConfig := do
  let r ← d.asRecord "DiscoveryConfig" 3
  return {
    source := ← r.read 0 "source" (some {}) SourceConfig.ofDoc
    blackWhiteList := ← r.read 1 "black_white_list" (some {}) ReplicationRules.ofDoc
    routes := ← r.read 2 "routes" (some []) (Doc.asList RenameRule.ofDoc) }

end DumpTopology
