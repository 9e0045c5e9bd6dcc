import DumpTopology.SourceFile
import DumpTopology.TableName

/-!
# Classified files

Classification sorts the files that discovery keeps into three buckets, each in the order
of the walk: database declarations, table declarations and data files. A declaration of a
database may lack its file when it was made up for a renamed schema whose origin had
none.
-/
namespace DumpTopology

/-- A file with the identity it belongs to. -/
structure ClassifiedFile where
  name : TableName
  file : SourceFile
  deriving BEq, DecidableEq, Repr, Inhabited

/-- The declaration of a database. -/
structure SchemaDeclaration where
  schema : String
  file : Option SourceFile
  deriving BEq, DecidableEq, Repr, Inhabited

/-- The path of a declaration, or the empty text. -/
def SchemaDeclaration.path (d : SchemaDeclaration) : String := (d.file.map (·.path)).getD ""

/-- Files sorted by what they hold. -/
structure Buckets where
  databaseSchemas : List SchemaDeclaration := []
  tableSchemas : List ClassifiedFile := []
  tableData : List ClassifiedFile := []
  deriving BEq, DecidableEq, Repr, Inhabited

end DumpTopology
