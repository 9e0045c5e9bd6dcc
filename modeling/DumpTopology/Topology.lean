import DumpTopology.SourceFile
import DumpTopology.Fault

/-!
# Topologies

A topology is the tree that loading works from: databases, their tables, and each
table's data files with their total size. A database and a table may carry the file that
declares them. Databases and tables are kept in lists, in the order discovery first met
them or in load order; lookups by name take the first entry with that name.

File sizes are 64-bit counts. A sum of sizes past `maxSize` is the fault
`sizeOverflow`, and a sum within it is exact.
-/
namespace DumpTopology

/-- The largest file size, and the largest sum of sizes. -/
def maxSize : Nat := Nat.pow 2 64 - 1

/-- A sum of sizes, refused when past `maxSize`. -/
def checkedSize (n : Nat) : Except DiscoveryFault Nat :=
  if n ≤ maxSize then .ok n else .error .sizeOverflow

/-- A table with its declaration, its data files and their total size. -/
structure TableMeta where
  db : String
  name : String
  schemaFile : Option SourceFile := none
  dataFiles : List SourceFile := []
  totalSize : Nat := 0
  deriving BEq, DecidableEq, Repr, Inhabited

/-- A database with its declaration and its tables. -/
structure DatabaseMeta where
  name : String
  schemaFile : Option SourceFile := none
  tables : List TableMeta := []
  deriving BEq, DecidableEq, Repr, Inhabited

namespace DatabaseMeta

/-- The path of the declaration, if there is one. -/
def schemaPath (d : DatabaseMeta) : Option String := d.schemaFile.map (·.path)

/-- The first table of a name. -/
def table? (d : DatabaseMeta) (name : String) : Option TableMeta := d.tables.find? (·.name == name)

/-- The exact sum of the tables' sizes. -/
def sizeSum (d : DatabaseMeta) : Nat := (d.tables.map (·.totalSize)).foldr (· + ·) 0

/-- The sum of the tables' sizes, refused past the size limit. -/
def totalSize (d : DatabaseMeta) : Except DiscoveryFault Nat := checkedSize d.sizeSum

end DatabaseMeta

/-- Databases in order. -/
structure Topology where
  databases : List DatabaseMeta := []
  deriving BEq, DecidableEq, Repr, Inhabited

namespace Topology

/-- The first database of a name. -/
def database? (t : Topology) (name : String) : Option DatabaseMeta :=
  t.databases.find? (·.name == name)

/-- A table by schema and name. -/
def table? (t : Topology) (schema name : String) : Option TableMeta :=
  (t.database? schema).bind (·.table? name)

/-- All tables, database by database. -/
def tables (t : Topology) : List TableMeta := t.databases.flatMap (·.tables)

/-- The number of tables. -/
def tableCount (t : Topology) : Nat := (t.databases.map (·.tables.length)).foldr (· + ·) 0

/-- Whether there is no database. -/
def isEmpty (t : Topology) : Bool := t.databases.isEmpty

/-- The sum of all sizes, refused when a database's sum or the whole sum is past the
size limit. -/
def totalSize (t : Topology) : Except DiscoveryFault Nat := do
  let sums ← t.databases.mapM (·.totalSize)
  checkedSize (sums.foldr (· + ·) 0)

end Topology

end DumpTopology
