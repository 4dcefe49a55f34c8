import Marquee.Image.Inflate
import Marquee.Image.Picture
import Marquee.Image.Png.Chunk

/-!
Reading a PNG file whose rows are not interlaced. Colours from a palette become red, green and
blue, samples of fewer than eight bits become eight, and a transparent colour becomes an opacity.
`none` stands for a file that cannot be decoded.
-/

namespace Marquee.Image.Png

-- Powers are those of the core library, whatever else is in scope.
attribute [local instance (high)] instPowNat instNatPowNat

inductive ColorType where
  | gray
  | rgb
  | palette
  | grayAlpha
  | rgba
deriving DecidableEq, Repr, Inhabited

def ColorType.ofCode? : Nat → Option ColorType
  | 0 => some .gray
  | 2 => some .rgb
  | 3 => some .palette
  | 4 => some .grayAlpha
  | 6 => some .rgba
  | _ => none

def ColorType.depths : ColorType → List Nat
  | .gray => [1, 2, 4, 8, 16]
  | .palette => [1, 2, 4, 8]
  | _ => [8, 16]

def ColorType.channels : ColorType → Nat
  | .gray => 1
  | .rgb => 3
  | .palette => 1
  | .grayAlpha => 2
  | .rgba => 4

structure Header where
  width : Nat
  height : Nat
  depth : Nat
  colorType : ColorType
deriving DecidableEq, Repr, Inhabited

namespace Header

def read? (bytes : ByteArray) : Option Header := do
  let width := bigEndian bytes 0 4
  let height := bigEndian bytes 4 4
  let depth := (byteAt bytes 8).toNat
  let colorType ← ColorType.ofCode? (byteAt bytes 9).toNat
  if bytes.size = 13 ∧ 0 < width ∧ 0 < height ∧ colorType.depths.contains depth ∧
      byteAt bytes 10 = 0 ∧ byteAt bytes 11 = 0 ∧ byteAt bytes 12 = 0 then
    some ⟨width, height, depth, colorType⟩
  else
    none

def rowLength (header : Header) : Nat :=
  (header.width * header.colorType.channels * header.depth + 7) / 8

def pixelStep (header : Header) : Nat := max 1 (header.colorType.channels * header.depth / 8)

end Header

structure Preamble where
  header : Header
  palette : Option ByteArray := none
  transparency : Option ByteArray := none

namespace Preamble

/-- The transparent colour, as it is compared with the bytes of a sample; or the opacities of a
palette. What does not fit the colour type is passed over. -/
def transparencyOf? (preamble : Preamble) (bytes : ByteArray) : Option ByteArray :=
  let shallow (places : List Nat) : ByteArray := ⟨(places.map (byteAt bytes)).toArray⟩
  match preamble.header.colorType with
  | .gray =>
    if bytes.size < 2 then none
    else if preamble.header.depth < 16 then some (shallow [1]) else some bytes
  | .rgb =>
    if bytes.size < 6 then none
    else if preamble.header.depth < 16 then some (shallow [1, 3, 5]) else some bytes
  | .palette => if preamble.palette.isSome then some bytes else none
  | _ => none

def add? (preamble : Preamble) (file : ByteArray) (chunk : Chunk) : Option Preamble :=
  if chunk.name = Chunk.nameOf "PLTE" then
    if preamble.palette.isSome then none
    else some { preamble with palette := some (chunk.bytes file) }
  else if chunk.name = Chunk.nameOf "tRNS" then
    if preamble.transparency.isSome then some preamble
    else some { preamble with transparency := preamble.transparencyOf? (chunk.bytes file) }
  else if chunk.isOptional then
    some preamble
  else
    none

end Preamble

/-- The data of the image, which may be spread over chunks that follow each other. The beginning of
another chunk must follow them. -/
def imageData? (file : ByteArray) : Nat → Nat → ByteArray → Option ByteArray
  | 0, _, _ => none
  | fuel + 1, place, found =>
    if !Chunk.beginsAt file place then none
    else if (file.extract (place + 4) (place + 8)).data.toList ≠ Chunk.nameOf "IDAT" then some found
    else
      match Chunk.at? file place with
      | none => none
      | some chunk =>
        if chunk.isSound then imageData? file fuel (chunk.stop + 4) (found ++ chunk.bytes file)
        else none

def contents? (file : ByteArray) : Nat → Nat → Preamble → Option (Preamble × ByteArray)
  | 0, _, _ => none
  | fuel + 1, place, preamble =>
    match Chunk.at? file place with
    | none => none
    | some chunk =>
      if chunk.name = Chunk.nameOf "IDAT" then
        (imageData? file (fuel + 1) place .empty).map (preamble, ·)
      else if chunk.isSound then
        (preamble.add? file chunk).bind (contents? file fuel (chunk.stop + 4))
      else if chunk.isOptional then
        contents? file fuel (chunk.stop + 4) preamble
      else
        none

/-- The neighbour that is nearest to left plus above minus the corner between them. -/
def nearestNeighbour (left above corner : Nat) : Nat :=
  let estimate : Int := (left : Int) + above - corner
  let toLeft := (estimate - left).natAbs
  let toAbove := (estimate - above).natAbs
  let toCorner := (estimate - corner).natAbs
  if toLeft ≤ toAbove ∧ toLeft ≤ toCorner then left
  else if toAbove ≤ toCorner then above
  else corner

def filterTerm? (filter left above corner : Nat) : Option Nat :=
  match filter with
  | 0 => some 0
  | 1 => some left
  | 2 => some above
  | 3 => some ((left + above) / 2)
  | 4 => some (nearestNeighbour left above corner)
  | _ => none

def unfilter? (filter step : Nat) (above filtered : ByteArray) (start : Nat) :
    Nat → ByteArray → Option ByteArray
  | 0, done => some done
  | count + 1, done => do
    let index := done.size
    let before (bytes : ByteArray) : Nat :=
      if index < step then 0 else (byteAt bytes (index - step)).toNat
    let term ← filterTerm? filter (before done) (byteAt above index).toNat (before above)
    let byte := (byteAt filtered (start + index)).toNat + term
    unfilter? filter step above filtered start count (done.push byte.toUInt8)

def rows? (header : Header) (filtered : ByteArray) :
    Nat → Nat → ByteArray → ByteArray → Option ByteArray
  | 0, _, _, done => some done
  | count + 1, start, above, done => do
    let filter := (byteAt filtered start).toNat
    let row ← unfilter? filter header.pixelStep above filtered (start + 1) header.rowLength .empty
    rows? header filtered count (start + 1 + header.rowLength) row (done ++ row)

def rawSample (header : Header) (rows : ByteArray) (row column channel : Nat) : Nat :=
  let index := column * header.colorType.channels + channel
  let start := row * header.rowLength
  if header.depth = 16 then bigEndian rows (start + 2 * index) 2
  else
    let bit := index * header.depth
    let byte := (byteAt rows (start + bit / 8)).toNat
    byte / 2 ^ (8 - header.depth - bit % 8) % 2 ^ header.depth

def stretched (header : Header) (sample : Nat) : Nat :=
  if header.depth < 8 then sample * (255 / (2 ^ header.depth - 1)) else sample

def sampleBytes (header : Header) (sample : Nat) : List UInt8 :=
  bigEndianBytes (if header.depth = 16 then 2 else 1) sample

/-- One of the four parts of an entry of the palette. An entry that is not there is black, and one
without an opacity is opaque. -/
def paletteSample (palette transparency : ByteArray) (entry part : Nat) : Nat :=
  if part = 3 then
    if transparency.size ≤ palette.size / 3 ∧ entry < transparency.size then
      (byteAt transparency entry).toNat
    else 255
  else (byteAt palette (entry * 3 + part)).toNat

def Preamble.pixelKind (preamble : Preamble) : PixelKind :=
  match preamble.header.colorType, preamble.transparency.isSome with
  | .gray, false => .gray
  | .gray, true => .grayAlpha
  | .rgb, false => .rgb
  | .rgb, true => .rgba
  | .palette, false => .rgb
  | .palette, true => .rgba
  | .grayAlpha, _ => .grayAlpha
  | .rgba, _ => .rgba

def Preamble.sample (preamble : Preamble) (rows : ByteArray) (row column channel : Nat) : Nat :=
  let header := preamble.header
  let raw := rawSample header rows row column
  match header.colorType with
  | .palette =>
    paletteSample (preamble.palette.getD .empty) (preamble.transparency.getD .empty) (raw 0) channel
  | _ =>
    if channel < header.colorType.channels then stretched header (raw channel)
    else
      let bytes := (List.range header.colorType.channels).flatMap fun channel =>
        sampleBytes header (raw channel)
      let isTransparent := preamble.transparency.elim false fun colour =>
        colour.data.toList == bytes
      if isTransparent then 0 else if header.depth = 16 then 65535 else 255

def Preamble.picture (preamble : Preamble) (rows : ByteArray) : Picture :=
  let kind := preamble.pixelKind
  let line := preamble.header.width * kind.channels
  { width := preamble.header.width
    height := preamble.header.height
    kind := kind
    deep := preamble.header.depth == 16
    samples := Array.ofFn fun index : Fin (line * preamble.header.height) =>
      preamble.sample rows (index / line) (index % line / kind.channels) (index % kind.channels) }

def decode? (file : ByteArray) : Option Picture := do
  if !hasSignature file then none
  else
    let first ← Chunk.at? file 8
    if first.name ≠ Chunk.nameOf "IHDR" ∨ ¬ first.isSound then none
    else
      let header ← Header.read? (first.bytes file)
      let (preamble, data) ← contents? file file.size (first.stop + 4) { header := header }
      if header.colorType = .palette ∧ preamble.palette.isNone then none
      else
        let filtered ← inflate? data
        if filtered.size < header.height * (header.rowLength + 1) then none
        else
          let rows ← rows? header filtered header.height 0 .empty .empty
          some (preamble.picture rows)

end Marquee.Image.Png
