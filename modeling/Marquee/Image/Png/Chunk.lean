import Marquee.Image.Bytes

/-!
The chunks of a PNG file: a length, a name of four letters, the data and a checksum over name and
data. A name in lower case marks a chunk that a reader may pass over.
-/

namespace Marquee.Image.Png

def signature : List UInt8 := [0x89, 0x50, 0x4e, 0x47, 0x0d, 0x0a, 0x1a, 0x0a]

def hasSignature (file : ByteArray) : Bool := (file.extract 0 8).data.toList == signature

structure Chunk where
  name : List UInt8
  start : Nat
  stop : Nat
  /-- Whether the checksum agrees. -/
  isSound : Bool
deriving Repr, Inhabited

namespace Chunk

def nameOf (text : String) : List UInt8 := text.toUTF8.data.toList

def isOptional (chunk : Chunk) : Bool :=
  match chunk.name with
  | first :: _ => first &&& 0x20 != 0
  | [] => false

def bytes (chunk : Chunk) (file : ByteArray) : ByteArray := file.extract chunk.start chunk.stop

def at? (file : ByteArray) (place : Nat) : Option Chunk :=
  let length := bigEndian file place 4
  let start := place + 8
  let stop := start + length
  if file.size < stop + 4 then none
  else
    some ⟨(file.extract (place + 4) start).data.toList, start, stop,
      (crc32 file (place + 4) stop).toNat == bigEndian file stop 4⟩

def beginsAt (file : ByteArray) (place : Nat) : Bool := place + 8 ≤ file.size

end Chunk

end Marquee.Image.Png
