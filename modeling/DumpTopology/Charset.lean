import DumpTopology.Text.Utf8
import DumpTopology.Text.Lower

/-!
# Character sets

Schema files are decoded by a character set: `utf8mb4` requires valid UTF-8, `latin1`
reads each byte as the character of that code, `binary` replaces each rejected UTF-8
sequence by U+FFFD, and `auto` takes UTF-8 when the bytes are valid and Latin-1
otherwise. Names are read case-insensitively; `utf8` and the empty name are aliases.
-/
namespace DumpTopology

/-- The character set of schema files. -/
inductive Charset
  | auto
  | utf8mb4
  | latin1
  | binary
  deriving BEq, DecidableEq, Repr, Inhabited

namespace Charset

/-- Reads a character set name. -/
def parse? (s : String) : Option Charset :=
  match Text.lowercase s with
  | "" | "auto" => some .auto
  | "utf8mb4" | "utf8" => some .utf8mb4
  | "latin1" => some .latin1
  | "binary" => some .binary
  | _ => none

/-- The lowercase name. -/
def name : Charset → String
  | .auto => "auto"
  | .utf8mb4 => "utf8mb4"
  | .latin1 => "latin1"
  | .binary => "binary"

/-- The name as a capitalised word. -/
def title : Charset → String
  | .auto => "Auto"
  | .utf8mb4 => "Utf8mb4"
  | .latin1 => "Latin1"
  | .binary => "Binary"

/-- Decodes bytes; only `utf8mb4` can fail. -/
def decode (cs : Charset) (bytes : List UInt8) : Except Text.Utf8Fault String :=
  match cs with
  | .utf8mb4 => Text.decodeUtf8 bytes
  | .latin1 => .ok (Text.decodeLatin1 bytes)
  | .binary => .ok (Text.decodeLossy bytes)
  | .auto =>
    match Text.decodeUtf8 bytes with
    | .ok s => .ok s
    | .error _ => .ok (Text.decodeLatin1 bytes)

end Charset

end DumpTopology
