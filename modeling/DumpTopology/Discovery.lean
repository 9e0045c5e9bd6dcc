import DumpTopology.Store.Basic
import DumpTopology.PathRule
import DumpTopology.NameFilter
import DumpTopology.Rename
import DumpTopology.Resolution
import DumpTopology.Assembly
import DumpTopology.LoadOrder

/-!
# Discovery

A discovery is one pass over a store. Each file in walk order is placed by the path
rules; a file that no rule places, or that the filter drops, is passed over, and the
others go to their bucket with the placement's kind, codec and sort key. The buckets are
then renamed when rename rules are given, the databases are built, and last they are put
into load order.

The filter judges a database declaration by its schema alone and any other file by its
schema and table. Rename rules make repeated declarations harmless, since renaming may
send several origins to one target.
-/
namespace DumpTopology

/-- The parts of a discovery. -/
structure Discovery where
  router : PathRouter
  filter : NameFilter
  renamer : Option Renamer := none
  schemaMode : Bool := true
  deriving Inhabited

namespace Buckets

/-- Adds a placed file to the bucket of its kind. -/
def add (b : Buckets) (p : Placement) (file : SourceFile) : Buckets :=
  match p.kind with
  | .databaseSchema => { b with databaseSchemas := b.databaseSchemas ++ [⟨p.name.schema, some file⟩] }
  | .tableSchema => { b with tableSchemas := b.tableSchemas ++ [⟨p.name, file⟩] }
  | .data _ => { b with tableData := b.tableData ++ [⟨p.name, file⟩] }

end Buckets

namespace Discovery

/-- Whether the filter keeps an identity. -/
def keeps (d : Discovery) (id : TableName) : Bool :=
  if id.isSchemaLevel then d.filter.matchSchema id.schema else d.filter.matchTable id.schema id.name

/-- Places one file of the walk into the buckets. -/
def accept (d : Discovery) (b : Buckets) (path : String) (size : Nat) : Except DiscoveryFault Buckets :=
  match d.router.route path with
  | .error e => .error (.pathRouting path e)
  | .ok none => .ok b
  | .ok (some p) =>
    if d.keeps p.name then .ok (b.add p ⟨path, size, p.kind, p.compression, p.sortKey⟩) else .ok b

/-- Sorts the files of a store into buckets. -/
def classify (d : Discovery) (s : Store) (cancelled : Bool) : Except DiscoveryFault Buckets :=
  s.fold cancelled d.accept {}

/-- The policy of the build. -/
def policy (d : Discovery) : BuildPolicy := ⟨d.schemaMode, d.renamer.isSome⟩

/-- The databases of a store in first-seen order. -/
def discoverUnordered (d : Discovery) (s : Store) (cancelled : Bool) :
    Except DiscoveryFault (List DatabaseMeta) := do
  let b ← d.classify s cancelled
  let b ← match d.renamer with
    | some rn => b.resolveRenames rn.route
    | none => pure b
  Builder.build {} b d.policy

/-- The topology of a store in load order. -/
def discover (d : Discovery) (s : Store) (cancelled : Bool) : Except DiscoveryFault Topology := do
  return ⟨sortForLoad (← d.discoverUnordered s cancelled)⟩

end Discovery

end DumpTopology
