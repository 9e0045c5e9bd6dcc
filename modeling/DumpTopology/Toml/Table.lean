import DumpTopology.Doc

/-!
# Building TOML tables

The tables of a TOML document are built as it is read. A table is implicit while it has
only been named on the way to another one, and dotted when dotted keys made it; arrays
of tables hold their tables in order, and a path through one goes into its last table.
Values, inline tables and arrays included, are closed: nothing can be added to them.

The rules of TOML 1.0, as they apply here:

* a header `[a.b]` may name a table once, or an implicit table that no dotted key made;
* a header `[[a.b]]` adds a table to an array of tables, or starts one;
* a dotted key may pass only through implicit tables, and put its value only into a table
  that dotted keys made;
* a key may be set once in its table.
-/
namespace DumpTopology.Toml

/-- A node of a document under construction. -/
inductive Node
  | value (d : Doc)
  | table (implicit dotted : Bool) (fields : List (String × Node))
  | tables (items : List (List (String × Node)))
  deriving Inhabited

/-- Why a table cannot be built. -/
inductive TableFault
  | duplicateKey (key : String)
  | notATable (key : String)
  deriving Repr, Inhabited

/-- The text of a table fault. -/
def TableFault.message : TableFault → String
  | .duplicateKey k => s!"duplicate key '{k}'"
  | .notATable k => s!"dotted key '{k}' attempted to extend non-table type"

/-- Building tables. -/
abbrev Building := Except TableFault

/-- Replaces the node of a key in fields, or adds it at the end. -/
def setField (fields : List (String × Node)) (key : String) (n : Node) : List (String × Node) :=
  if fields.any (·.1 == key) then fields.map fun (k, v) => if k == key then (k, n) else (k, v)
  else fields ++ [(key, n)]

/-- Changes the fields of the table that `path` leads to from `fields`, creating missing
tables on the way as implicit tables, dotted when `dotted` holds. When `dotted` holds the
way may pass only through implicit tables. `f` also returns a result. -/
def descend {α : Type} (dotted : Bool) (f : List (String × Node) → Building (List (String × Node) × α)) :
    List String → List (String × Node) → Building (List (String × Node) × α)
  | [], fields => f fields
  | key :: more, fields =>
    match fields.lookup key with
    | none => do
      let (sub, a) ← descend dotted f more []
      return (setField fields key (.table true dotted sub), a)
    | some (.value _) => .error (.notATable key)
    | some (.tables items) => do
      let (sub, a) ← descend dotted f more (items.getLast?.getD [])
      return (setField fields key (.tables (items.dropLast ++ [sub])), a)
    | some (.table implicit isDotted sub) => do
      if dotted && !implicit then throw (.duplicateKey key)
      let (sub, a) ← descend dotted f more sub
      return (setField fields key (.table implicit isDotted sub), a)

/-- Whether the table at the end of a path was made by dotted keys; the top is not. -/
def dottedAt : List String → List (String × Node) → Bool
  | [], _ => false
  | [key], fields =>
    match fields.lookup key with
    | some (.table _ d _) => d
    | _ => false
  | key :: more, fields =>
    match fields.lookup key with
    | some (.table _ _ sub) => dottedAt more sub
    | some (.tables items) => dottedAt more (items.getLast?.getD [])
    | _ => false

/-- Sets a value at a dotted key in the table at `at_`, which headers lead to. -/
def setValue (root : List (String × Node)) (at_ : List String) (key : List String) (v : Doc) :
    Building (List (String × Node)) := do
  let prefix_ := key.dropLast
  let last := key.getLast?.getD ""
  let (root, _) ← descend false (fun fields => do
      let (fields, _) ← descend true (fun inner => do
          if inner.any (·.1 == last) then throw (.duplicateKey last)
          return (inner ++ [(last, .value v)], ())) prefix_ fields
      if !prefix_.isEmpty && !dottedAt prefix_ fields then throw (.duplicateKey last)
      return (fields, ())) at_ root
  return root

/-- Opens a table with a header `[path]`. -/
def openTable (root : List (String × Node)) (path : List String) : Building (List (String × Node)) := do
  let last := path.getLast?.getD ""
  let (root, _) ← descend false (fun fields =>
      match fields.lookup last with
      | none => .ok (fields ++ [(last, .table false false [])], ())
      | some (.table true false sub) => .ok (setField fields last (.table false false sub), ())
      | _ => .error (.duplicateKey last)) path.dropLast root
  return root

/-- Adds a table to the array of tables `[[path]]`. -/
def openArrayTable (root : List (String × Node)) (path : List String) : Building (List (String × Node)) := do
  let last := path.getLast?.getD ""
  let (root, _) ← descend false (fun fields =>
      match fields.lookup last with
      | none => .ok (fields ++ [(last, .tables [[]])], ())
      | some (.tables items) => .ok (setField fields last (.tables (items ++ [[]])), ())
      | _ => .error (.duplicateKey last)) path.dropLast root
  return root

mutual
/-- The document of a node. -/
def Node.toDoc : Node → Doc
  | .value d => d
  | .table _ _ fields => .table (fieldsDoc fields)
  | .tables items => .arr (tablesDoc items)

/-- The documents of fields. -/
def fieldsDoc : List (String × Node) → List (String × Doc)
  | [] => []
  | (k, n) :: more => (k, n.toDoc) :: fieldsDoc more

/-- The documents of the tables of an array. -/
def tablesDoc : List (List (String × Node)) → List Doc
  | [] => []
  | fields :: more => .table (fieldsDoc fields) :: tablesDoc more
end

end DumpTopology.Toml
