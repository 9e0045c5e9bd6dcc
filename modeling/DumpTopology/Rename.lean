import DumpTopology.Wildcard
import DumpTopology.TableName

/-!
# Rename rules

A rename rule sends the schemas that its schema wildcard matches, and, when it has a
table wildcard, only the tables that this one matches, to a target. An empty target part
keeps the part it would replace.

Rules with a table wildcard are table level; the others are schema level. For an identity
with a table name, the table-level rules that match it decide when there is exactly one.
Otherwise the schema-level rules that match the schema decide, again when there is exactly
one. Two or more matching rules of the deciding level are an ambiguity, not a choice.
When no rule matches, the identity is kept. Only the number of matching rules counts, so
the order of the rules never matters.
-/
namespace DumpTopology

/-- A rename rule as configured. -/
structure RenameRule where
  schemaPattern : String
  tablePattern : String := ""
  targetSchema : String
  targetTable : String := ""
  deriving BEq, Repr, Inhabited

/-- A compiled rename rule. -/
structure CompiledRename where
  schema : Wildcard
  table : Option Wildcard
  targetSchema : String
  targetTable : String
  deriving Inhabited

namespace CompiledRename

/-- The identity the rule sends `(schema, table)` to. -/
def apply (r : CompiledRename) (schema table : String) : TableName :=
  ⟨if r.targetSchema.isEmpty then schema else r.targetSchema,
    if r.targetTable.isEmpty then table else r.targetTable⟩

/-- Whether a table-level rule matches a table. -/
def matchesTable (r : CompiledRename) (schema table : String) : Bool :=
  r.schema.accepts schema && (r.table.map (·.accepts table)).getD false

end CompiledRename

/-- Compiled rename rules by level. -/
structure Renamer where
  tableRules : List CompiledRename
  schemaRules : List CompiledRename
  deriving Inhabited

namespace Renamer

/-- Compiles one rule; wildcards ignore case unless `caseSensitive`. -/
def compileRule (caseSensitive : Bool) (r : RenameRule) : Except RuleFault CompiledRename := do
  let schema ← Wildcard.compile r.schemaPattern (!caseSensitive)
  let table ← if r.tablePattern.isEmpty then pure none
    else some <$> Wildcard.compile r.tablePattern (!caseSensitive)
  return ⟨schema, table, r.targetSchema, r.targetTable⟩

/-- Compiles rules in their order and sorts them by level. -/
def compile (rules : List RenameRule) (caseSensitive : Bool) : Except RuleFault Renamer := do
  let compiled ← rules.mapM (compileRule caseSensitive)
  return ⟨compiled.filter (·.table.isSome), compiled.filter (·.table.isNone)⟩

/-- The one matching rule of a level, if exactly one matches. -/
def single (matched : List CompiledRename) (level : String) :
    Except RuleFault (Option CompiledRename) :=
  match matched with
  | [] => .ok none
  | [r] => .ok (some r)
  | _ => .error (.ambiguousRoute matched.length level)

/-- The identity that `(schema, table)` is renamed to. -/
def route (rn : Renamer) (schema table : String) : Except RuleFault TableName := do
  let byTable ← if table.isEmpty then pure none
    else single (rn.tableRules.filter (·.matchesTable schema table)) "table"
  match byTable with
  | some r => return r.apply schema table
  | none =>
    match ← single (rn.schemaRules.filter (·.schema.accepts schema)) "schema" with
    | some r => return r.apply schema table
    | none => return ⟨schema, table⟩

end Renamer

end DumpTopology
