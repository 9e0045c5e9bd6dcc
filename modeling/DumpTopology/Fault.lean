/-!
# Faults

Two families of failure. A `RuleFault` comes from a single rule: a pattern that does not
compile, a kind or codec that a rule names but that does not exist, a rule with neither
or both of its matchers, or a rename that more than one rule claims. A `DiscoveryFault`
stops a whole discovery; two of its cases carry the rule fault that caused them.

Sums of file sizes are limited to 64 bits; a sum beyond that is the fault
`sizeOverflow`, not a wrapped number.
-/
namespace DumpTopology

/-- Why a rule cannot be compiled or applied. -/
inductive RuleFault
  | invalidPattern (pattern message : String)
  | unknownFileKind (text : String)
  | unknownCompression (text : String)
  /-- A path rule must have exactly one of a pattern and a path glob. -/
  | missingMatcher
  /-- Several rules of one level (`table` or `schema`) match one identity. -/
  | ambiguousRoute (count : Nat) (level : String)
  deriving BEq, DecidableEq, Repr, Inhabited

/-- The text of a rule fault. -/
def RuleFault.message : RuleFault → String
  | .invalidPattern p m => s!"invalid pattern '{p}': {m}"
  | .unknownFileKind t => s!"unknown file type '{t}'"
  | .unknownCompression t => s!"unknown compression type '{t}'"
  | .missingMatcher => "rule must set exactly one of `pattern` or `path`"
  | .ambiguousRoute n level => s!"matches {n} {level} rules, please check the route rules"

/-- Why a discovery stops. -/
inductive DiscoveryFault
  | conflict (text : String)
  | config (text : String)
  /-- A configuration text that does not read, with the reader's account of it. -/
  | unreadableConfig (text : String)
  | pathRouting (path : String) (cause : RuleFault)
  | tableRouting (schema table : String) (cause : RuleFault)
  | missingDeclaration (text : String)
  | duplicateDeclaration (kind identity path : String)
  | listing (root message : String)
  | cancelled
  /-- A failure to read, with the text of its cause. -/
  | io (text : String)
  /-- A compressed file that does not decode, with the text of the decoder's fault. -/
  | undecodable (text : String)
  /-- A sum of sizes past 2^64 - 1. -/
  | sizeOverflow
  deriving BEq, DecidableEq, Repr, Inhabited

namespace DiscoveryFault

/-- The text of a discovery fault. -/
def message : DiscoveryFault → String
  | .conflict t => s!"Configuration conflict: {t}"
  | .config t | .unreadableConfig t => s!"Config error: {t}"
  | .pathRouting p c => s!"Apply file routing on file '{p}' failed: {c.message}"
  | .tableRouting s t c => "Apply table routing on `" ++ s ++ "`.`" ++ t ++ "` failed: " ++ c.message
  | .missingDeclaration t => s!"Missing declaration: {t}"
  | .duplicateDeclaration k i p => s!"Invalid {k} file, duplicated item '{i}' - {p}"
  | .listing r m => s!"List files failed under '{r}': {m}"
  | .cancelled => "Discovery cancelled"
  | .io t | .undecodable t => s!"IO error: {t}"
  | .sizeOverflow => "attempt to add with overflow"

/-- The texts of the fault and of the causes under it, outermost first. -/
def chain (f : DiscoveryFault) : List String :=
  match f with
  | .pathRouting _ c | .tableRouting _ _ c => [f.message, c.message]
  | .io t | .undecodable t => [f.message, t]
  | _ => [f.message]

end DiscoveryFault

end DumpTopology
