import DumpTopology.Config.Decode
import DumpTopology.Toml.Document

/-!
# Configuration texts

A configuration is written in TOML; a text that does not read, or whose values do not
have the shapes of a configuration, is refused with the reader's account of it.
-/
namespace DumpTopology

/-- Reads a configuration from TOML text. -/
def DiscoveryConfig.ofToml (text : String) : Except DiscoveryFault DiscoveryConfig :=
  match Toml.parseDocument text with
  | .error msg => .error (.unreadableConfig msg)
  | .ok d => (DiscoveryConfig.ofDoc d).mapError fun e => .unreadableConfig (e.message ++ "\n")

end DumpTopology
