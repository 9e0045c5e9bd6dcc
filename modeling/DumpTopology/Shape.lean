import DumpTopology.Doc

/-!
# Reading documents by shape

A record is read from a table, by field name, or from an array, by position in the
record's field order. A field that is absent takes its default, and a record without a
default for it is refused; fields that the record does not know are passed over. Only an
optional field accepts null. An array record longer than its field list is refused.
Sizes are integers from 0 to 2^64 - 1.
-/
namespace DumpTopology

/-- Why a document does not have the shape asked for. -/
inductive ShapeFault
  | missingField (name : String)
  /-- A value of the wrong kind: what was found, and what was expected. -/
  | wrongType (found expected : String)
  /-- A value of the right kind that is out of range. -/
  | wrongValue (found expected : String)
  | wrongLength (count : Nat) (expected : String)
  deriving BEq, Repr, Inhabited

/-- The text of a shape fault. -/
def ShapeFault.message : ShapeFault → String
  | .missingField name => "missing field `" ++ name ++ "`"
  | .wrongType found expected => s!"invalid type: {found}, expected {expected}"
  | .wrongValue found expected => s!"invalid value: {found}, expected {expected}"
  | .wrongLength n expected => s!"invalid length {n}, expected {expected}"

/-- Reading a document into a value. -/
abbrev Shaped := Except ShapeFault

/-- The fields of a record: named, or by position. -/
inductive RecordForm
  | named (fields : List (String × Doc))
  | positional (items : List Doc)

namespace Doc

/-- How a document is named in a fault. -/
def unexpected : Doc → String
  | .null => "null"
  | .bool b => "boolean `" ++ toString b ++ "`"
  | .int n => "integer `" ++ toString n ++ "`"
  | .float t => "floating point `" ++ t ++ "`"
  | .datetime _ => "datetime"
  | .str s => "string \"" ++ s ++ "\""
  | .arr _ => "sequence"
  | .table _ => "map"

/-- A string. -/
def asString : Doc → Shaped String
  | .str s => .ok s
  | d => .error (.wrongType d.unexpected "a string")

/-- A boolean. -/
def asBool : Doc → Shaped Bool
  | .bool b => .ok b
  | d => .error (.wrongType d.unexpected "a boolean")

/-- A size: an integer from 0 to 2^64 - 1. -/
def asSize : Doc → Shaped Nat
  | .int n =>
    if 0 ≤ n ∧ n < (Nat.pow 2 64 : Int) then .ok n.toNat else .error (.wrongValue (Doc.int n).unexpected "u64")
  | d => .error (.wrongType d.unexpected "u64")

/-- A list whose items are read by `f`. -/
def asList {α : Type} (f : Doc → Shaped α) : Doc → Shaped (List α)
  | .arr items => items.mapM f
  | d => .error (.wrongType d.unexpected "a sequence")

/-- An optional value: null is none. -/
def asOption {α : Type} (f : Doc → Shaped α) : Doc → Shaped (Option α)
  | .null => .ok none
  | d => some <$> f d

/-- The fields of a record of `size` fields called `record`. -/
def asRecord (record : String) (size : Nat) : Doc → Shaped RecordForm
  | .table fields => .ok (.named fields)
  | .arr items =>
    if items.length ≤ size then .ok (.positional items)
    else .error (.wrongLength items.length s!"struct {record} with {size} elements")
  | d => .error (.wrongType d.unexpected s!"struct {record}")

end Doc

namespace RecordForm

/-- Field number `i`, named `key`, if present. -/
def field? (r : RecordForm) (i : Nat) (key : String) : Option Doc :=
  match r with
  | .named fields => fields.lookup key
  | .positional items => items[i]?

/-- Reads field number `i`, named `key`, taking `dflt` when it is absent. -/
def read {α : Type} (r : RecordForm) (i : Nat) (key : String) (dflt : Option α)
    (f : Doc → Shaped α) : Shaped α :=
  match r.field? i key, dflt with
  | some d, _ => f d
  | none, some v => .ok v
  | none, none => .error (.missingField key)

end RecordForm

end DumpTopology
