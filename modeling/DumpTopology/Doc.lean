/-!
# Documents

A document is the value that configuration texts and structured answers hold: null,
booleans, integers, floating-point numbers (kept as written), date-times (kept as
written), strings, arrays and tables of named fields in their order.
-/
namespace DumpTopology

/-- A document value. -/
inductive Doc
  | null
  | bool (b : Bool)
  | int (n : Int)
  | float (text : String)
  | datetime (text : String)
  | str (s : String)
  | arr (items : List Doc)
  | table (fields : List (String × Doc))
  deriving Repr, Inhabited, BEq

namespace Doc

/-- The field of a table, if present. -/
def field? (d : Doc) (key : String) : Option Doc :=
  match d with
  | .table fields => fields.lookup key
  | _ => none

/-- A document of an optional value. -/
def ofOption {α : Type} (f : α → Doc) : Option α → Doc
  | some a => f a
  | none => .null

/-- A natural number as a document. -/
def nat (n : Nat) : Doc := .int n

end Doc

end DumpTopology
