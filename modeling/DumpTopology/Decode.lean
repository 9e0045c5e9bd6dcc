import DumpTopology.Shape
import DumpTopology.Topology
import DumpTopology.Buckets

/-!
# Reading discovery values from documents

The inverse of the document forms: a source file needs all five of its fields, a kind is
one of the two schema names or a table with the single field `data`, and a codec is
named in lowercase. The file of a declaration or table may be null.
-/
namespace DumpTopology

/-- Reads a data format by its lowercase name. -/
def DataFormat.ofDoc (d : Doc) : Shaped DataFormat := do
  match ← d.asString with
  | "sql" => return .sql
  | "csv" => return .csv
  | "parquet" => return .parquet
  | s => throw (.wrongValue s!"unknown variant '{s}'" "one of sql, csv, parquet")

/-- Reads a kind. -/
def FileKind.ofDoc : Doc → Shaped FileKind
  | .str "database-schema" => .ok .databaseSchema
  | .str "table-schema" => .ok .tableSchema
  | .table [("data", f)] => FileKind.data <$> DataFormat.ofDoc f
  | d => .error (.wrongType d.unexpected "a kind")

/-- Reads a codec. -/
def Compression.ofDoc (d : Doc) : Shaped Compression := do
  match ← d.asString with
  | "none" => return .none
  | "gzip" => return .gzip
  | "zstd" => return .zstd
  | "snappy" => return .snappy
  | s => throw (.wrongValue s!"unknown variant '{s}'" "one of none, gzip, zstd, snappy")

/-- Reads an identity. -/
def TableName.ofDoc (d : Doc) : Shaped TableName := do
  let r ← d.asRecord "TableName" 2
  return ⟨← r.read 0 "schema" none Doc.asString, ← r.read 1 "name" none Doc.asString⟩

/-- Reads a source file. -/
def SourceFile.ofDoc (d : Doc) : Shaped SourceFile := do
  let r ← d.asRecord "SourceFile" 5
  return {
    path := ← r.read 0 "path" none Doc.asString
    size := ← r.read 1 "size" none Doc.asSize
    kind := ← r.read 2 "kind" none FileKind.ofDoc
    compression := ← r.read 3 "compression" none Compression.ofDoc
    sortKey := ← r.read 4 "sort_key" none Doc.asString }

/-- Reads a table. -/
def TableMeta.ofDoc (d : Doc) : Shaped TableMeta := do
  let r ← d.asRecord "TableMeta" 5
  return {
    db := ← r.read 0 "db" none Doc.asString
    name := ← r.read 1 "name" none Doc.asString
    schemaFile := ← r.read 2 "schema_file" (some none) (Doc.asOption SourceFile.ofDoc)
    dataFiles := ← r.read 3 "data_files" none (Doc.asList SourceFile.ofDoc)
    totalSize := ← r.read 4 "total_size" none Doc.asSize }

/-- Reads a database. -/
def DatabaseMeta.ofDoc (d : Doc) : Shaped DatabaseMeta := do
  let r ← d.asRecord "DatabaseMeta" 3
  return {
    name := ← r.read 0 "name" none Doc.asString
    schemaFile := ← r.read 1 "schema_file" (some none) (Doc.asOption SourceFile.ofDoc)
    tables := ← r.read 2 "tables" none (Doc.asList TableMeta.ofDoc) }

/-- Reads a classified file. -/
def ClassifiedFile.ofDoc (d : Doc) : Shaped ClassifiedFile := do
  let r ← d.asRecord "ClassifiedFile" 2
  return ⟨← r.read 0 "name" none TableName.ofDoc, ← r.read 1 "file" none SourceFile.ofDoc⟩

/-- Reads a database declaration. -/
def SchemaDeclaration.ofDoc (d : Doc) : Shaped SchemaDeclaration := do
  let r ← d.asRecord "SchemaDeclaration" 2
  return ⟨← r.read 0 "schema" none Doc.asString,
    ← r.read 1 "file" (some none) (Doc.asOption SourceFile.ofDoc)⟩

/-- Reads buckets; each list is empty when absent. -/
def Buckets.ofDoc (d : Doc) : Shaped Buckets := do
  let r ← d.asRecord "Buckets" 3
  return {
    databaseSchemas := ← r.read 0 "database_schemas" (some []) (Doc.asList SchemaDeclaration.ofDoc)
    tableSchemas := ← r.read 1 "table_schemas" (some []) (Doc.asList ClassifiedFile.ofDoc)
    tableData := ← r.read 2 "table_data" (some []) (Doc.asList ClassifiedFile.ofDoc) }

end DumpTopology
