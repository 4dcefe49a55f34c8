/-!
Pictures as they come out of a file, in samples of 8 or 16 bits, and rasters, whose pixels are
four bytes each for red, green, blue and opacity.
-/

namespace Marquee.Image

inductive PixelKind where
  | gray
  | grayAlpha
  | rgb
  | rgba
deriving DecidableEq, Repr, Inhabited

def PixelKind.channels : PixelKind → Nat
  | .gray => 1
  | .grayAlpha => 2
  | .rgb => 3
  | .rgba => 4

/-- A picture: its samples row by row, each below 256, or below 65536 where it is deep. -/
structure Picture where
  width : Nat
  height : Nat
  kind : PixelKind
  deep : Bool
  samples : Array Nat
deriving DecidableEq, Repr, Inhabited

structure Raster where
  width : Nat
  height : Nat
  bytes : ByteArray
  size_bytes : bytes.size = width * height * 4

namespace Raster

def ofFn (width height : Nat) (byte : Nat → UInt8) : Raster where
  width := width
  height := height
  bytes := ⟨Array.ofFn fun index : Fin (width * height * 4) => byte index⟩
  size_bytes := by simp [ByteArray.size]

def row (raster : Raster) (index : Nat) : ByteArray :=
  raster.bytes.extract (index * raster.width * 4) ((index + 1) * raster.width * 4)

end Raster

namespace Picture

def maximum (picture : Picture) : Nat := if picture.deep then 65535 else 255

def sample (picture : Picture) (pixel channel : Nat) : Nat :=
  picture.samples.getD (pixel * picture.kind.channels + channel) 0

/-- A sample as a byte; of 16 bits the nearest of 8 is taken. -/
def byteOf (picture : Picture) (value : Nat) : UInt8 :=
  if picture.deep then ((value + 128) / 257).toUInt8 else value.toUInt8

/-- One of the four bytes of a pixel: a gray stands for all three colours, and what has no opacity
is opaque. -/
def byteAt (picture : Picture) (pixel part : Nat) : UInt8 :=
  let value (channel : Nat) : UInt8 := picture.byteOf (picture.sample pixel channel)
  match picture.kind with
  | .gray => if part = 3 then 255 else value 0
  | .grayAlpha => if part = 3 then value 1 else value 0
  | .rgb => if part = 3 then 255 else value part
  | .rgba => value part

def raster (picture : Picture) : Raster :=
  .ofFn picture.width picture.height fun index => picture.byteAt (index / 4) (index % 4)

end Picture

end Marquee.Image
