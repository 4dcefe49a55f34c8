import Marquee.Image.Bytes
import Marquee.Image.Picture

/-!
Reading a BMP file of 24 or 32 bits a pixel without compression. Rows come from the bottom up
unless the height is negative, each filled up to a multiple of four bytes; a fourth byte of a
pixel is passed over. `none` stands for a file that cannot be decoded.
-/

namespace Marquee.Image.Bitmap

structure Header where
  width : Nat
  height : Nat
  topDown : Bool
  /-- Bytes of a pixel. -/
  step : Nat
  /-- Where the pixels begin. -/
  start : Nat
deriving DecidableEq, Repr, Inhabited

namespace Header

def edgeLimit : Int := 65535

def stepOf? (bits : Nat) : Option Nat :=
  if bits = 24 then some 3 else if bits = 32 then some 4 else none

def short? (file : ByteArray) : Option Header :=
  if file.size < 26 ∨ littleEndian file 22 2 ≠ 1 ∨ littleEndian file 24 2 ≠ 24 then none
  else some ⟨littleEndian file 18 2, littleEndian file 20 2, false, 3, littleEndian file 10 4⟩

def common? (file : ByteArray) : Option Header :=
  let width := signedLittleEndian file 18
  let height := signedLittleEndian file 22
  if file.size < 54 ∨ width < 0 ∨ edgeLimit < width ∨ edgeLimit < height ∨ height = -0x80000000 ∨
      littleEndian file 26 2 ≠ 1 ∨ littleEndian file 30 4 ≠ 0 then none
  else
    (stepOf? (littleEndian file 28 2)).map fun step =>
      ⟨width.toNat, height.natAbs, height < 0, step, littleEndian file 10 4⟩

def read? (file : ByteArray) : Option Header :=
  let size := littleEndian file 14 4
  if file.size < 18 ∨ byteAt file 0 ≠ 0x42 ∨ byteAt file 1 ≠ 0x4d then none
  else if size = 12 then short? file
  else if [40, 52, 56, 108, 124].contains size then common? file
  else none

def rowLength (header : Header) : Nat := (header.width * header.step + 3) / 4 * 4

def sample (header : Header) (file : ByteArray) (row column channel : Nat) : Nat :=
  let line := if header.topDown then row else header.height - 1 - row
  let pixel := header.start + line * header.rowLength + column * header.step
  (byteAt file (pixel + (2 - channel))).toNat

end Header

def decode? (file : ByteArray) : Option Picture := do
  let header ← Header.read? file
  if file.size < header.start + header.height * header.rowLength then none
  else
    let line := header.width * 3
    some {
      width := header.width
      height := header.height
      kind := .rgb
      deep := false
      samples := Array.ofFn fun index : Fin (line * header.height) =>
        header.sample file (index / line) (index % line / 3) (index % 3) }

end Marquee.Image.Bitmap
