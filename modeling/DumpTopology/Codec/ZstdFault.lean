/-!
# Zstandard faults

Why a Zstandard stream does not decode, with the texts the format's reference decoder
gives them.
-/
namespace DumpTopology.Codec

/-- Why a Zstandard stream does not decode. -/
inductive ZstdFault
  | unknownFrame
  | incomplete
  | corrupt
  | checksum
  | unsupported
  | windowTooLarge
  | dictionary
  deriving BEq, Repr, Inhabited

/-- The text of a Zstandard fault. -/
def ZstdFault.message : ZstdFault → String
  | .unknownFrame => "Unknown frame descriptor"
  | .incomplete => "incomplete frame"
  | .corrupt => "Data corruption detected"
  | .checksum => "Restored data doesn't match checksum"
  | .unsupported => "Unsupported frame parameter"
  | .windowTooLarge => "Frame requires too much memory for decoding"
  | .dictionary => "Dictionary mismatch"

/-- Decoding Zstandard. -/
abbrev Unzstd := Except ZstdFault

end DumpTopology.Codec
