import DumpTopology.Text.Lower

/-!
# Source files

A dump holds database declarations, table declarations and data files. A data file is
in one of three formats, and any file may be compressed. Kinds and codecs are read from
rule texts case-insensitively, after full Unicode lowercasing, so `SQL` reads as `sql`
while `ſql` does not.
-/
namespace DumpTopology

/-- The format of a data file. -/
inductive DataFormat
  | sql
  | csv
  | parquet
  deriving BEq, DecidableEq, Repr, Inhabited

/-- The lowercase name of a format. -/
def DataFormat.name : DataFormat → String
  | .sql => "sql"
  | .csv => "csv"
  | .parquet => "parquet"

/-- What a source file declares or holds. -/
inductive FileKind
  /-- The declaration of a database. -/
  | databaseSchema
  /-- The declaration of a table. -/
  | tableSchema
  /-- Rows of one table. -/
  | data (format : DataFormat)
  deriving BEq, DecidableEq, Repr, Inhabited

namespace FileKind

/-- The kind in words. -/
def describe : FileKind → String
  | .databaseSchema => "database schema"
  | .tableSchema => "table schema"
  | .data f => f.name

/-- Reads the kind named in a routing rule. -/
def parse? (s : String) : Option FileKind :=
  match Text.lowercase s with
  | "schema-schema" => some .databaseSchema
  | "table-schema" => some .tableSchema
  | "sql" => some (.data .sql)
  | "csv" => some (.data .csv)
  | "parquet" => some (.data .parquet)
  | _ => none

/-- Whether files of the kind hold rows. -/
def isData : FileKind → Bool
  | .data _ => true
  | _ => false

end FileKind

/-- The codec a file is compressed with. -/
inductive Compression
  | none
  | gzip
  | zstd
  | snappy
  deriving BEq, DecidableEq, Repr, Inhabited

namespace Compression

/-- The name of a codec. -/
def name : Compression → String
  | .none => "none"
  | .gzip => "gzip"
  | .zstd => "zstd"
  | .snappy => "snappy"

/-- Reads a codec as named by a file extension; the empty text is no compression. -/
def parse? (s : String) : Option Compression :=
  match Text.lowercase s with
  | "" | "none" => some .none
  | "gz" | "gzip" => some .gzip
  | "zst" | "zstd" => some .zstd
  | "snappy" => some .snappy
  | _ => Option.none

end Compression

/-- A classified file of a dump. -/
structure SourceFile where
  path : String
  size : Nat
  kind : FileKind
  compression : Compression
  sortKey : String
  deriving BEq, DecidableEq, Repr, Inhabited

end DumpTopology
