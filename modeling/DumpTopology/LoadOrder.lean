import DumpTopology.Topology

/-!
# Load order

Loading takes small tables first, so that they finish and free shared workers early, and
the parts of a table in the order of their sort keys. Both sorts are stable: tables of
equal size, and files of equal key, keep their order. Keys compare byte by byte.
-/
namespace DumpTopology

/-- Whether one table may go before another: it is no larger. -/
def tableBefore (a b : TableMeta) : Bool := a.totalSize ≤ b.totalSize

/-- Whether one file may go before another: its key is not greater. -/
def fileBefore (a b : SourceFile) : Bool := !(b.sortKey < a.sortKey)

/-- A table with its files in key order. -/
def TableMeta.sortFiles (t : TableMeta) : TableMeta :=
  { t with dataFiles := t.dataFiles.mergeSort fileBefore }

/-- A database with its tables in size order, each with its files in key order. -/
def DatabaseMeta.sortForLoad (d : DatabaseMeta) : DatabaseMeta :=
  { d with tables := (d.tables.mergeSort tableBefore).map TableMeta.sortFiles }

/-- Databases in their order, each sorted for loading. -/
def sortForLoad (dbs : List DatabaseMeta) : List DatabaseMeta := dbs.map DatabaseMeta.sortForLoad

end DumpTopology
