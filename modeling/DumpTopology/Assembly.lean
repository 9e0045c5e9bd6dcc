import DumpTopology.Topology
import DumpTopology.Buckets

/-!
# Assembling a topology

A builder holds databases in the order they were first named, each with its tables in the
order they were first named, and two indices: the position of each database by its name,
and the position of each table, a database position and a table position, by its identity.
Entries are only ever appended, so a position stays valid once it is handed out.

Naming a database again changes nothing and reports that it existed, so the first
declaration given for a database is the one kept. Naming a table creates its database,
without a declaration, if needed.

Building adds the buckets in order: database declarations, then table declarations, then
data files. In schema mode every declaration and file must find what it belongs to: a
database declaration at all, the database of each table declaration, and the database and
table of each data file. A repeated declaration is refused unless duplicates are tolerated.
Outside schema mode the declarations are ignored and data files create what they need.
Each data file adds its size to its table's total.
-/
namespace DumpTopology

/-- How strictly declarations are enforced while building. -/
structure BuildPolicy where
  schemaMode : Bool
  tolerateDuplicates : Bool
  deriving Repr, Inhabited

/-- Databases in the order they were first named, with the position of each database by
name and of each table by identity. -/
structure Builder where
  databases : List DatabaseMeta := []
  dbIndex : List (String × Nat) := []
  tableIndex : List (TableName × (Nat × Nat)) := []
  deriving Inhabited

namespace Builder

/-- The position of a database, appended without tables when it is new, and whether it
existed before. -/
def databaseHandle (b : Builder) (name : String) (decl : Option SourceFile) :
    Builder × Nat × Bool :=
  match b.dbIndex.lookup name with
  | some i => (b, i, true)
  | none =>
    ({ b with
        databases := b.databases ++ [{ name, schemaFile := decl }]
        dbIndex := (name, b.databases.length) :: b.dbIndex },
      b.databases.length, false)

/-- The table at a position; the positions that the index hands out always hold one. -/
def tableAt (b : Builder) (pos : Nat × Nat) : TableMeta :=
  ((b.databases[pos.1]?).bind (·.tables[pos.2]?)).getD default

/-- Changes the table at a position. -/
def modifyTable (b : Builder) (pos : Nat × Nat) (f : TableMeta → TableMeta) : Builder :=
  { b with
    databases := b.databases.modify pos.1 fun d => { d with tables := d.tables.modify pos.2 f } }

/-- Appends a new table of an identity to the database at a position, and indexes it at
its position. -/
def appendTable (b : Builder) (d : Nat) (id : TableName) : Builder × (Nat × Nat) :=
  let i := ((b.databases[d]?).map (·.tables.length)).getD 0
  ({ b with
      databases := b.databases.modify d fun db =>
        { db with tables := db.tables ++ [{ db := id.schema, name := id.name }] }
      tableIndex := (id, (d, i)) :: b.tableIndex },
    (d, i))

/-- The position of a table, appended to its database when it is new (the database is
created without a declaration if needed), and whether its database and it existed before. -/
def tableHandle (b : Builder) (id : TableName) : Builder × (Nat × Nat) × Bool × Bool :=
  let (b, d, dbExisted) := b.databaseHandle id.schema none
  match b.tableIndex.lookup id with
  | some pos => (b, pos, dbExisted, true)
  | none =>
    let (b, pos) := b.appendTable d id
    (b, pos, dbExisted, false)

/-- Names a database with a declaration: the builder, the database's entry and whether it
existed before. -/
def insertDatabase (b : Builder) (name : String) (decl : Option SourceFile) :
    Builder × DatabaseMeta × Bool :=
  let (b, i, existed) := b.databaseHandle name decl
  (b, (b.databases[i]?).getD default, existed)

/-- Names a table, creating its database and itself as needed: the builder, the table's
entry, and whether its database and it existed before. -/
def insertTable (b : Builder) (id : TableName) : Builder × TableMeta × Bool × Bool :=
  let (b, pos, dbExisted, tableExisted) := b.tableHandle id
  (b, b.tableAt pos, dbExisted, tableExisted)

/-- Adds a database declaration in schema mode. -/
def declareDatabase (policy : BuildPolicy) (b : Builder) (decl : SchemaDeclaration) :
    Except DiscoveryFault Builder :=
  let (b', _, existed) := b.databaseHandle decl.schema decl.file
  if existed && !policy.tolerateDuplicates then
    .error (.duplicateDeclaration "database schema" decl.schema decl.path)
  else .ok b'

/-- Adds a table declaration in schema mode. -/
def declareTable (policy : BuildPolicy) (b : Builder) (r : ClassifiedFile) :
    Except DiscoveryFault Builder :=
  let (b', pos, dbExisted, tableExisted) := b.tableHandle r.name
  if !dbExisted then
    .error (.missingDeclaration
      s!"invalid table schema file, cannot find db '{r.name.schema}' - {r.file.path}")
  else if tableExisted then
    if policy.tolerateDuplicates then .ok b'
    else .error (.duplicateDeclaration "table schema" r.name.display r.file.path)
  else .ok (b'.modifyTable pos fun t => { t with schemaFile := some r.file })

/-- Adds a data file. -/
def addData (policy : BuildPolicy) (b : Builder) (r : ClassifiedFile) :
    Except DiscoveryFault Builder :=
  let (b', pos, dbExisted, tableExisted) := b.tableHandle r.name
  if policy.schemaMode && !dbExisted then
    .error (.missingDeclaration
      s!"invalid data file, miss host db '{r.name.schema}' - {r.file.path}")
  else if policy.schemaMode && !tableExisted then
    .error (.missingDeclaration
      s!"invalid data file, miss host table '{r.name.name}' - {r.file.path}")
  else (checkedSize ((b'.tableAt pos).totalSize + r.file.size)).map fun total =>
    b'.modifyTable pos fun t => { t with totalSize := total, dataFiles := t.dataFiles ++ [r.file] }

/-- Adds the declarations of schema mode: there must be a database declaration, and the
databases' declarations go before the tables'. -/
def declare (b : Builder) (buckets : Buckets) (policy : BuildPolicy) :
    Except DiscoveryFault Builder := do
  if buckets.databaseSchemas.isEmpty then
    throw (.missingDeclaration
      "no database schema file found, expected \x7bschema\x7d-schema-create.sql")
  let b ← buckets.databaseSchemas.foldlM (declareDatabase policy) b
  buckets.tableSchemas.foldlM (declareTable policy) b

/-- Builds the databases from the buckets. -/
def build (b : Builder) (buckets : Buckets) (policy : BuildPolicy) :
    Except DiscoveryFault (List DatabaseMeta) := do
  let b ← if policy.schemaMode then b.declare buckets policy else pure b
  let b ← buckets.tableData.foldlM (addData policy) b
  return b.databases

end Builder

end DumpTopology
