/-!
# CRC-32

The cyclic redundancy check of gzip: the reflected polynomial `0xEDB88320`, with the
register starting at all ones and inverted at the end.
-/
namespace DumpTopology.Codec

/-- Shifts one bit through the register. -/
def crcStep (c : UInt32) : UInt32 := if c &&& 1 == 1 then (c >>> 1) ^^^ 0xEDB88320 else c >>> 1

/-- Feeds one byte to the register. -/
def crcByte (c : UInt32) (b : UInt8) : UInt32 :=
  Nat.repeat crcStep 8 (c ^^^ b.toUInt32)

/-- Feeds bytes to a running check (one not yet inverted). -/
def crcUpdate (c : UInt32) (bytes : ByteArray) : UInt32 := bytes.foldl crcByte c

/-- The CRC-32 of bytes. -/
def crc32 (bytes : ByteArray) : UInt32 := crcUpdate 0xFFFFFFFF bytes ^^^ 0xFFFFFFFF

end DumpTopology.Codec
