import DumpTopology.Store.Basic
import DumpTopology.SourceFile
import DumpTopology.Statement
import DumpTopology.Charset
import DumpTopology.Codec.Gzip
import DumpTopology.Codec.Zstd

/-!
# Extracting schema statements

The statements of a schema file are its bytes, decompressed by its codec, collected into
statements, and decoded by the character set. The file is opened first, so a missing file
fails before anything else; snappy files are not read at all.
-/
namespace DumpTopology

/-- The bytes of an opened file after its codec. -/
def decompress (path : String) (codec : Compression) (opened : Reading) :
    Except DiscoveryFault ByteArray := do
  match codec with
  | .none => opened.bytes
  | .gzip => (Codec.gunzip (← opened.bytes)).mapError fun e => .undecodable e.message
  | .zstd => (Codec.unzstd (← opened.bytes)).mapError fun e => .undecodable e.message
  | .snappy => throw (.io s!"cannot extract snappy-compressed schema '{path}'")

/-- The statements of a schema file as text. -/
def Store.exportStatement (s : Store) (file : SourceFile) (cs : Charset) : Except DiscoveryFault String := do
  let opened ← s.openAt file.path
  let bytes ← decompress file.path file.compression opened
  (cs.decode (collectStatements bytes.toList)).mapError fun e => .io e.message

end DumpTopology
