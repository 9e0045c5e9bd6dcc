/-!
# Table identities

A table is named by its schema and its own name. A declaration of a whole schema uses
an empty table name; such an identity is schema level. Identities are written with
backquotes: `` `db` `` for a schema, `` `db`.`t` `` for a table.
-/
namespace DumpTopology

/-- A schema and a table name; an empty table name stands for the schema itself. -/
structure TableName where
  schema : String
  name : String
  deriving DecidableEq, Repr, Inhabited

namespace TableName

/-- The identity of a schema declaration. -/
def schemaOnly (schema : String) : TableName := ⟨schema, ""⟩

/-- Whether the identity names a schema rather than a table. -/
def isSchemaLevel (t : TableName) : Bool := t.name.isEmpty

/-- The identity in backquotes. -/
def display (t : TableName) : String :=
  if t.isSchemaLevel then "`" ++ t.schema ++ "`"
  else "`" ++ t.schema ++ "`.`" ++ t.name ++ "`"

end TableName

end DumpTopology
