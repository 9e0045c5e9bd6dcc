import DumpTopology.Buckets
import DumpTopology.Fault

/-!
# Resolving renames

Renaming moves table declarations and data files from one identity to another, and the
database declarations have to follow. Each schema keeps a count of what refers to it:
one for its own declaration, one for each table declaration attributed to it. Moving a
record out of a schema takes one reference from it and gives one to the target.

A target schema that has no reference and no declaration record borrows the declaration
file of the schema the record came from: a declaration is made up for it, once. After all
records are moved, database declarations of schemas left without references are dropped.
Table declarations move first, then data files, each in bucket order.
-/
namespace DumpTopology

/-- What is known of a schema during resolution. -/
structure SchemaRefs where
  /-- The first declaration file of the schema. -/
  declaration : Option SourceFile := none
  count : Int := 0
  /-- Whether a database declaration record exists, given or made up. -/
  hasRecord : Bool := false
  deriving BEq, Repr, Inhabited

/-- The state of resolution: references by schema, and the declarations made up so far in
the order they were made. -/
structure Resolution where
  known : List (String × SchemaRefs) := []
  synthesized : List SchemaDeclaration := []
  deriving Inhabited

namespace Resolution

/-- What is known of a schema; nothing yet is the default. -/
def refs (r : Resolution) (schema : String) : SchemaRefs := (r.known.lookup schema).getD {}

/-- Replaces what is known of a schema. -/
def setRefs (r : Resolution) (schema : String) (v : SchemaRefs) : Resolution :=
  { r with known := (schema, v) :: r.known.filter (·.1 != schema) }

/-- Records a database declaration: the first one of a schema sets its count to one. -/
def declare (r : Resolution) (d : SchemaDeclaration) : Resolution :=
  if (r.refs d.schema).hasRecord then r
  else r.setRefs d.schema { declaration := d.file, hasRecord := true, count := 1 }

/-- Counts a table declaration for its schema. -/
def countTable (r : Resolution) (f : ClassifiedFile) : Resolution :=
  let v := r.refs f.name.schema
  r.setRefs f.name.schema { v with count := v.count + 1 }

/-- Moves one reference from a schema to another, making up a declaration for the target
when it has neither references nor a record. -/
def transfer (r : Resolution) (source target : String) : Resolution :=
  let o := r.refs source
  let r := r.setRefs source { o with count := o.count - 1 }
  let t := r.refs target
  if t.count ≤ 0 && !t.hasRecord then
    let r := r.setRefs target { declaration := o.declaration, count := t.count + 1, hasRecord := true }
    { r with synthesized := r.synthesized ++ [⟨target, o.declaration⟩] }
  else r.setRefs target { t with count := t.count + 1 }

/-- Renames one record, moving its reference when its schema changes. -/
def move (rename : String → String → Except RuleFault TableName)
    (acc : Resolution × List ClassifiedFile) (f : ClassifiedFile) :
    Except DiscoveryFault (Resolution × List ClassifiedFile) :=
  match rename f.name.schema f.name.name with
  | .error e => .error (.tableRouting f.name.schema f.name.name e)
  | .ok target =>
    let r := if target.schema != f.name.schema then acc.1.transfer f.name.schema target.schema
      else acc.1
    .ok (r, acc.2 ++ [{ f with name := target }])

end Resolution

/-- Renames the records of the buckets and keeps their database declarations consistent. -/
def Buckets.resolveRenames (rename : String → String → Except RuleFault TableName)
    (b : Buckets) : Except DiscoveryFault Buckets := do
  let r := b.databaseSchemas.foldl Resolution.declare {}
  let r := b.tableSchemas.foldl Resolution.countTable r
  let (r, tableSchemas) ← b.tableSchemas.foldlM (Resolution.move rename) (r, [])
  let (r, tableData) ← b.tableData.foldlM (Resolution.move rename) (r, [])
  let databaseSchemas := (b.databaseSchemas ++ r.synthesized).filter fun d => (r.refs d.schema).count > 0
  return { databaseSchemas, tableSchemas, tableData }

end DumpTopology
