import DumpTopology.Config.Basic
import DumpTopology.Encode

/-!
# Documents of configurations

The document form of a configuration: every field written, in the record's field order,
with absent optional values as null.
-/
namespace DumpTopology

/-- The form of a rename rule. -/
def RenameRule.toDoc (r : RenameRule) : Doc :=
  .table [("schema_pattern", .str r.schemaPattern), ("table_pattern", .str r.tablePattern),
    ("target_schema", .str r.targetSchema), ("target_table", .str r.targetTable)]

/-- The form of a table rule. -/
def TableRule.toDoc (r : TableRule) : Doc :=
  .table [("db_name", .str r.dbName), ("tbl_name", .str r.tblName)]

/-- The form of the do and ignore lists. -/
def ReplicationRules.toDoc (r : ReplicationRules) : Doc :=
  .table [("do_dbs", .arr (r.doDbs.map .str)), ("ignore_dbs", .arr (r.ignoreDbs.map .str)),
    ("do_tables", .arr (r.doTables.map TableRule.toDoc)),
    ("ignore_tables", .arr (r.ignoreTables.map TableRule.toDoc))]

/-- The form of a source section. -/
def SourceConfig.toDoc (s : SourceConfig) : Doc :=
  .table [("dir", .str s.dir), ("no_schema", .bool s.noSchema),
    ("character_set", .str s.characterSet), ("case_sensitive", .bool s.caseSensitive),
    ("default_file_rules", .ofOption .bool s.defaultFileRules),
    ("filter", .ofOption (fun xs => .arr (xs.map .str)) s.filter),
    ("files", .arr (s.files.map PathRule.toDoc))]

/-- The form of a configuration. -/
def DiscoveryConfig.toDoc (c : DiscoveryConfig) : Doc :=
  .table [("source", c.source.toDoc), ("black_white_list", c.blackWhiteList.toDoc),
    ("routes", .arr (c.routes.map RenameRule.toDoc))]

end DumpTopology
