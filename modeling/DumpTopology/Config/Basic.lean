import DumpTopology.PathRule
import DumpTopology.Rename
import DumpTopology.NameFilter
import DumpTopology.Charset

/-!
# Discovery configuration

The configuration of a discovery: where the dump is, whether schema declarations are
required, how schema files are encoded, whether names compare with case, the path rules,
the name filter (a rule list, or the older do and ignore lists) and the rename rules.

Path rules and rename rules may not both be given, nor a rule list together with the
older lists; the character set must be known. The built-in path rules apply when asked,
or, when nothing is said, when no path rules are given. Without a rule list, the default
list keeps everything but the system schemas.
-/
namespace DumpTopology

/-- The rule list used when none is given. -/
def defaultFilter : List String :=
  ["*.*", "!mysql.*", "!sys.*", "!INFORMATION_SCHEMA.*", "!PERFORMANCE_SCHEMA.*",
    "!METRICS_SCHEMA.*", "!INSPECTION_SCHEMA.*"]

/-- Where and how to read a dump. -/
structure SourceConfig where
  dir : String := ""
  noSchema : Bool := false
  characterSet : String := "auto"
  caseSensitive : Bool := false
  defaultFileRules : Option Bool := none
  filter : Option (List String) := none
  files : List PathRule := []
  deriving BEq, Repr, Inhabited

/-- A discovery configuration. -/
structure DiscoveryConfig where
  source : SourceConfig := {}
  blackWhiteList : ReplicationRules := {}
  routes : List RenameRule := []
  deriving BEq, Repr, Inhabited

namespace SourceConfig

/-- Whether the built-in path rules apply. -/
def usesDefaultFileRules (s : SourceConfig) : Bool := s.defaultFileRules.getD s.files.isEmpty

/-- The rule list of the filter. -/
def filterRules (s : SourceConfig) : List String := s.filter.getD defaultFilter

end SourceConfig

namespace DiscoveryConfig

/-- Whether the older do and ignore lists are given. -/
def hasLegacyList (c : DiscoveryConfig) : Bool := !c.blackWhiteList.isEmpty

/-- The character set, if its name is known. -/
def charset (c : DiscoveryConfig) : Except DiscoveryFault Charset :=
  match Charset.parse? c.source.characterSet with
  | some cs => .ok cs
  | none => .error (.config s!"unsupported character set '{c.source.characterSet}'")

/-- Checks that the configuration is consistent. -/
def validate (c : DiscoveryConfig) : Except DiscoveryFault Unit := do
  if !c.routes.isEmpty && !c.source.files.isEmpty then
    throw (.conflict "table route is deprecated, can't config both [routes] and [source.files]")
  if c.hasLegacyList && c.source.filter.isSome then
    throw (.conflict "`source.filter` and `black_white_list` cannot be configured at the same time")
  discard c.charset

end DiscoveryConfig

end DumpTopology
