import DumpTopology.Doc
import DumpTopology.Topology
import DumpTopology.Buckets
import DumpTopology.PathRule

/-!
# Documents of discovery values

The document forms of the values that discovery consumes and produces. Field names are
written in snake case, kinds and codecs by their names, a data kind as a table with the
single field `data`, and a missing file as null.
-/
namespace DumpTopology

/-- The form of a kind. -/
def FileKind.toDoc : FileKind → Doc
  | .databaseSchema => .str "database-schema"
  | .tableSchema => .str "table-schema"
  | .data f => .table [("data", .str f.name)]

/-- The form of a codec. -/
def Compression.toDoc (c : Compression) : Doc := .str c.name

/-- The form of an identity. -/
def TableName.toDoc (t : TableName) : Doc := .table [("schema", .str t.schema), ("name", .str t.name)]

/-- The form of a source file. -/
def SourceFile.toDoc (f : SourceFile) : Doc :=
  .table [("path", .str f.path), ("size", .nat f.size), ("kind", f.kind.toDoc),
    ("compression", f.compression.toDoc), ("sort_key", .str f.sortKey)]

/-- The form of a table. -/
def TableMeta.toDoc (t : TableMeta) : Doc :=
  .table [("db", .str t.db), ("name", .str t.name), ("schema_file", .ofOption SourceFile.toDoc t.schemaFile),
    ("data_files", .arr (t.dataFiles.map SourceFile.toDoc)), ("total_size", .nat t.totalSize)]

/-- The form of a database. -/
def DatabaseMeta.toDoc (d : DatabaseMeta) : Doc :=
  .table [("name", .str d.name), ("schema_file", .ofOption SourceFile.toDoc d.schemaFile),
    ("tables", .arr (d.tables.map TableMeta.toDoc))]

/-- The form of a topology. -/
def Topology.toDoc (t : Topology) : Doc :=
  .table [("databases", .arr (t.databases.map DatabaseMeta.toDoc))]

/-- The form of a classified file. -/
def ClassifiedFile.toDoc (f : ClassifiedFile) : Doc :=
  .table [("name", f.name.toDoc), ("file", f.file.toDoc)]

/-- The form of a database declaration. -/
def SchemaDeclaration.toDoc (d : SchemaDeclaration) : Doc :=
  .table [("schema", .str d.schema), ("file", .ofOption SourceFile.toDoc d.file)]

/-- The form of buckets. -/
def Buckets.toDoc (b : Buckets) : Doc :=
  .table [("database_schemas", .arr (b.databaseSchemas.map SchemaDeclaration.toDoc)),
    ("table_schemas", .arr (b.tableSchemas.map ClassifiedFile.toDoc)),
    ("table_data", .arr (b.tableData.map ClassifiedFile.toDoc))]

/-- The form of a placement. -/
def Placement.toDoc (p : Placement) : Doc :=
  .table [("name", p.name.toDoc), ("kind", p.kind.toDoc), ("compression", p.compression.toDoc),
    ("sort_key", .str p.sortKey)]

/-- The form of a path rule. -/
def PathRule.toDoc (r : PathRule) : Doc :=
  .table [("pattern", .ofOption .str r.pattern), ("path", .ofOption .str r.path),
    ("schema", .str r.schema), ("table", .str r.table), ("type", .str r.kind),
    ("key", .str r.key), ("compression", .str r.compression)]

end DumpTopology
