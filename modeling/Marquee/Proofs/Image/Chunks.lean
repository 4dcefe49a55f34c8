import Marquee.Image.Png.Decode
import Marquee.Proofs.Image.Stored

/-!
The chunks of a written file are found again, each where the one before it ends, and its checksum
agrees. The compressed data may be spread over any number of them.
-/

namespace Marquee.Image.Png

variable {file data stream : ByteArray} {name : String} {place : Nat}

theorem size_number (count value : Nat) :
    (ByteArray.mk (bigEndianBytes count value).toArray).size = count := by
  rw [size_ofList, length_bigEndianBytes]

theorem size_chunkBytes (four : name.toUTF8.size = 4) (data : ByteArray) :
    (chunkBytes name data).size = data.size + 12 := by
  simp only [chunkBytes, ByteArray.size_append, size_number, four]
  omega

structure Stands (file : ByteArray) (place : Nat) (name : String) (data : ByteArray) : Prop where
  counted : bigEndian file place 4 = data.size
  named : (file.extract (place + 4) (place + 8)).data.toList = Chunk.nameOf name
  kept : file.extract (place + 8) (place + 8 + data.size) = data
  summed : bigEndian file (place + 8 + data.size) 4 =
    (crc32 file (place + 4) (place + 8 + data.size)).toNat
  inside : place + 8 + data.size + 4 ≤ file.size

theorem stands_of_holds (four : name.toUTF8.size = 4) (small : data.size < 4294967296)
    (holds : Holds file place (chunkBytes name data)) : Stands file place name data := by
  have parts := holds
  rw [chunkBytes, ByteArray.append_assoc] at parts
  have body := parts.right.left
  have sum := parts.right.right
  rw [size_number] at body sum
  have named := body.left.extract
  have kept := body.right.extract
  have whole := body.crc32_eq
  have ends : place + 4 + (name.toUTF8 ++ data).size = place + 8 + data.size := by
    rw [ByteArray.size_append, four]
    omega
  rw [ends] at sum whole
  rw [four] at named kept
  refine ⟨parts.left.bigEndian_eq small, congrArg (·.data.toList) named, kept, ?_, ?_⟩
  · rw [whole]
    exact sum.bigEndian_eq (UInt32.toNat_lt _)
  · have within := sum.size_le
    rwa [size_number] at within

namespace Stands

theorem at?_eq (stands : Stands file place name data) :
    Chunk.at? file place =
      some ⟨Chunk.nameOf name, place + 8, place + 8 + data.size, true⟩ := by
  have inside := stands.inside
  simp only [Chunk.at?, stands.counted, stands.named, stands.summed, beq_self_eq_true]
  rw [if_neg (by omega)]

theorem bytes_eq (stands : Stands file place name data) (named : List UInt8) (isSound : Bool) :
    Chunk.bytes ⟨named, place + 8, place + 8 + data.size, isSound⟩ file = data := stands.kept

theorem beginsAt_eq (stands : Stands file place name data) : Chunk.beginsAt file place = true := by
  have inside := stands.inside
  simp only [Chunk.beginsAt, decide_eq_true_eq]
  omega

end Stands

theorem dataChunks_succ (stream : ByteArray) (fuel start : Nat) :
    dataChunks stream (fuel + 1) start =
      chunkBytes "IDAT" (stream.extract start (min (start + chunkLimit) stream.size)) ++
        if min (start + chunkLimit) stream.size = stream.size then .empty
        else dataChunks stream fuel (min (start + chunkLimit) stream.size) := rfl

/-- A chunk of the image is taken in, and another one ends it. -/
theorem imageData?_stands {more : Nat} (found : ByteArray)
    (stands : Stands file place name data) :
    imageData? file (more + 1) place found =
      if Chunk.nameOf name = Chunk.nameOf "IDAT" then
        imageData? file more (place + 8 + data.size + 4) (found ++ data)
      else some found := by
  simp only [imageData?, stands.beginsAt_eq, stands.named, stands.at?_eq, stands.bytes_eq,
    Bool.not_true, Bool.false_eq_true, if_false, if_true, ite_not, ne_eq]

/-- Each chunk makes the place one byte later at least, so the file is long enough for as many
chunks as it has. -/
theorem imageData?_eq {fuel start more : Nat} (found : ByteArray)
    (holds : Holds file place (dataChunks stream fuel start ++ chunkBytes "IEND" .empty))
    (begun : start ≤ stream.size) (fuelled : stream.size < start + fuel)
    (enough : file.size < place + more) :
    imageData? file more place found = some (found ++ stream.extract start stream.size) := by
  induction fuel generalizing place found start more with
  | zero => omega
  | succ fuel ih =>
      rw [dataChunks_succ] at holds
      generalize stops : min (start + chunkLimit) stream.size = stop at holds
      have limit : chunkLimit = 2147483647 := rfl
      have size : (stream.extract start stop).size = stop - start := by
        rw [ByteArray.size_extract]
        omega
      rw [ByteArray.append_assoc] at holds
      have stands := stands_of_holds (by decide) (by omega) holds.left
      have inside := stands.inside
      have rest := holds.right
      rw [size_chunkBytes (by decide)] at rest
      cases more with
      | zero => omega
      | succ more =>
          rw [imageData?_stands _ stands, if_pos rfl]
          have next : place + 8 + (stream.extract start stop).size + 4 =
              place + ((stream.extract start stop).size + 12) := by omega
          rw [next]
          by_cases last : stop = stream.size
          · rw [if_pos last, ByteArray.empty_append] at rest
            have ended := stands_of_holds (by decide) (by decide) rest
            have beyond := ended.inside
            cases more with
            | zero => omega
            | succ more =>
                rw [imageData?_stands _ ended, if_neg (by decide), last]
          · rw [if_neg last] at rest
            rw [ih _ rest (by omega) (by omega) (by omega), ByteArray.append_assoc,
              ← ByteArray.extract_eq_extract_append_extract stop (by omega) (by omega)]

/-- What follows the header of a written file is its compressed data. -/
theorem contents?_eq {fuel more : Nat} (preamble : Preamble)
    (holds : Holds file place (dataChunks stream (fuel + 1) 0 ++ chunkBytes "IEND" .empty))
    (fuelled : stream.size ≤ fuel) (enough : file.size < place + more) :
    contents? file more place preamble = some (preamble, stream) := by
  cases more with
  | zero =>
      have := holds.size_le
      omega
  | succ more =>
      have found := imageData?_eq .empty holds (Nat.zero_le _) (by omega) enough
      rw [ByteArray.empty_append, ByteArray.extract_zero_size] at found
      have first := holds.left
      rw [dataChunks_succ] at first
      have limit : chunkLimit = 2147483647 := rfl
      have stands := stands_of_holds (by decide)
        (by rw [ByteArray.size_extract]; omega) first.left
      simp only [contents?, stands.at?_eq, if_true, found, Option.map_some]

end Marquee.Image.Png
