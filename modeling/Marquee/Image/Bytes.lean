/-!
Numbers in byte strings, and the two checksums that image files use.
-/

namespace Marquee.Image

-- Powers are those of the core library, whatever else is in scope.
attribute [local instance (high)] instPowNat instNatPowNat

def byteAt (bytes : ByteArray) (index : Nat) : UInt8 :=
  if inside : index < bytes.size then bytes[index] else 0

def bigEndian (bytes : ByteArray) (start : Nat) : Nat → Nat
  | 0 => 0
  | count + 1 => bigEndian bytes start count * 256 + (byteAt bytes (start + count)).toNat

def littleEndian (bytes : ByteArray) (start : Nat) : Nat → Nat
  | 0 => 0
  | count + 1 => littleEndian bytes start count + (byteAt bytes (start + count)).toNat * 256 ^ count

def signedLittleEndian (bytes : ByteArray) (start : Nat) : Int :=
  Int.bmod (littleEndian bytes start 4) 0x100000000

def bigEndianBytes (count value : Nat) : List UInt8 :=
  (List.range count).map fun index => (value / 256 ^ (count - 1 - index)).toUInt8

def littleEndianBytes (count value : Nat) : List UInt8 :=
  (List.range count).map fun index => (value / 256 ^ index).toUInt8

def crcBit (crc : UInt32) : UInt32 :=
  if crc &&& 1 = 1 then (crc >>> 1) ^^^ 0xedb88320 else crc >>> 1

def crcByte (crc : UInt32) (byte : UInt8) : UInt32 :=
  crcBit (crcBit (crcBit (crcBit (crcBit (crcBit (crcBit (crcBit (crc ^^^ byte.toUInt32))))))))

def crc32 (bytes : ByteArray) (start stop : Nat) : UInt32 :=
  (bytes.foldl crcByte 0xffffffff start stop) ^^^ 0xffffffff

def adlerStep (sums : Nat × Nat) (byte : UInt8) : Nat × Nat :=
  let low := (sums.1 + byte.toNat) % 65521
  (low, (sums.2 + low) % 65521)

def adler32 (bytes : ByteArray) : Nat :=
  let sums := bytes.foldl adlerStep (1, 0)
  sums.2 * 65536 + sums.1

end Marquee.Image
