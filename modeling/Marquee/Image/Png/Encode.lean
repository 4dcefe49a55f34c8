import Marquee.Image.Picture
import Marquee.Image.Png.Chunk

/-!
Writing a raster as a PNG file. The rows are not filtered, and the data are stored in blocks
without being compressed, over as many chunks as they take.
-/

namespace Marquee.Image.Png

def chunkBytes (name : String) (data : ByteArray) : ByteArray :=
  let body := name.toUTF8 ++ data
  ⟨(bigEndianBytes 4 data.size).toArray⟩ ++ body ++
    ⟨(bigEndianBytes 4 (crc32 body 0 body.size).toNat).toArray⟩

def plainRows (raster : Raster) : ByteArray :=
  (List.range raster.height).foldl (fun rows index => rows.push 0 ++ raster.row index) .empty

def blockLimit : Nat := 65535

def storedBlocks (data : ByteArray) : Nat → Nat → ByteArray → ByteArray
  | 0, _, done => done
  | fuel + 1, start, done =>
    let stop := min (start + blockLimit) data.size
    let isLast := stop == data.size
    let length := stop - start
    let head := (if isLast then 1 else 0) :: (littleEndianBytes 2 length ++
      littleEndianBytes 2 (blockLimit - length))
    let done := done ++ ⟨head.toArray⟩ ++ data.extract start stop
    if isLast then done else storedBlocks data fuel stop done

def storedStream (data : ByteArray) : ByteArray :=
  storedBlocks data (data.size + 1) 0 ⟨#[0x78, 0x01]⟩ ++
    ⟨(bigEndianBytes 4 (adler32 data)).toArray⟩

def headerBytes (raster : Raster) : ByteArray :=
  ⟨(bigEndianBytes 4 raster.width ++ bigEndianBytes 4 raster.height ++ [8, 6, 0, 0, 0]).toArray⟩

def chunkLimit : Nat := 0x7fffffff

def dataChunks (stream : ByteArray) : Nat → Nat → ByteArray
  | 0, _ => .empty
  | fuel + 1, start =>
    let stop := min (start + chunkLimit) stream.size
    chunkBytes "IDAT" (stream.extract start stop) ++
      if stop = stream.size then .empty else dataChunks stream fuel stop

def encode (raster : Raster) : ByteArray :=
  let stream := storedStream (plainRows raster)
  ⟨signature.toArray⟩ ++ chunkBytes "IHDR" (headerBytes raster) ++
    dataChunks stream (stream.size + 1) 0 ++ chunkBytes "IEND" .empty

end Marquee.Image.Png
