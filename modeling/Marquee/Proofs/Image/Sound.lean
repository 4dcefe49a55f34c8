import Marquee.Image.Bitmap
import Marquee.Image.Png.Decode
import Marquee.Proofs.Image.RoundTrip

/-!
A picture that is read from a file has as many samples as its size asks for, and each is in its
range.
-/

namespace Marquee.Image

-- Powers are those of the core library, whatever else is in scope.
attribute [local instance (high)] instPowNat instNatPowNat

structure Picture.IsSound (picture : Picture) : Prop where
  size : picture.samples.size = picture.width * picture.height * picture.kind.channels
  range : ∀ sample ∈ picture.samples, sample ≤ picture.maximum

theorem Picture.isSound_ofFn {picture : Picture} {size : Nat} {sample : Fin size → Nat}
    (samples : picture.samples = Array.ofFn sample)
    (counted : size = picture.width * picture.kind.channels * picture.height)
    (range : ∀ index, sample index ≤ picture.maximum) : picture.IsSound := by
  constructor
  · rw [samples, Array.size_ofFn, counted, Nat.mul_right_comm]
  · intro value member
    rw [samples, Array.mem_ofFn] at member
    obtain ⟨index, rfl⟩ := member
    exact range index

namespace Bitmap

theorem isSound_decode? {file : ByteArray} {picture : Picture}
    (decoded : decode? file = some picture) : picture.IsSound := by
  obtain ⟨header, _, kept⟩ := Option.bind_eq_some_iff.mp decoded
  split at kept
  · cases kept
  · cases kept
    refine Picture.isSound_ofFn rfl rfl fun index => ?_
    exact Nat.le_of_lt_succ (UInt8.toNat_lt _)

end Bitmap

theorem bigEndian_lt (bytes : ByteArray) (start count : Nat) :
    bigEndian bytes start count < 256 ^ count := by
  induction count with
  | zero => exact Nat.one_pos
  | succ count ih =>
      have byte := (byteAt bytes (start + count)).toNat_lt
      rw [bigEndian, Nat.pow_succ]
      omega

namespace Png

def limit (depth : Nat) : Nat := if depth = 16 then 65535 else 255

theorem rawSample_le (header : Header) (rows : ByteArray) (row column channel : Nat) :
    rawSample header rows row column channel ≤ 2 ^ header.depth - 1 := by
  unfold rawSample
  split
  · rename_i deep
    have bound := bigEndian_lt rows (row * header.rowLength +
      2 * (column * header.colorType.channels + channel)) 2
    rw [deep]
    exact Nat.le_sub_one_of_lt bound
  · exact Nat.le_sub_one_of_lt (Nat.mod_lt _ (Nat.two_pow_pos _))

theorem stretched_le {header : Header} {sample : Nat}
    (depth : header.depth ∈ [1, 2, 4, 8, 16]) (small : sample ≤ 2 ^ header.depth - 1) :
    stretched header sample ≤ limit header.depth := by
  unfold stretched limit
  simp only [List.mem_cons, List.not_mem_nil, or_false] at depth
  rcases depth with depth | depth | depth | depth | depth <;> rw [depth] at small ⊢ <;>
    simp <;> omega

theorem paletteSample_le (palette transparency : ByteArray) (entry part : Nat) :
    paletteSample palette transparency entry part ≤ 255 := by
  unfold paletteSample
  split
  · split
    · exact Nat.le_of_lt_succ (UInt8.toNat_lt _)
    · exact Nat.le_refl 255
  · exact Nat.le_of_lt_succ (UInt8.toNat_lt _)

theorem sample_le {preamble : Preamble} (rows : ByteArray) (row column channel : Nat)
    (depth : preamble.header.depth ∈ [1, 2, 4, 8, 16]) :
    preamble.sample rows row column channel ≤ limit preamble.header.depth := by
  have least : 255 ≤ limit preamble.header.depth := by
    unfold limit
    split <;> decide
  unfold Preamble.sample
  dsimp only
  split
  · exact Nat.le_trans (paletteSample_le _ _ _ _) least
  · split
    · exact stretched_le depth (rawSample_le _ _ _ _ _)
    · split
      · exact Nat.zero_le _
      · exact Nat.le_refl _

theorem isSound_picture {preamble : Preamble} (rows : ByteArray)
    (depth : preamble.header.depth ∈ [1, 2, 4, 8, 16]) : (preamble.picture rows).IsSound := by
  refine Picture.isSound_ofFn rfl rfl fun index => ?_
  have top : (preamble.picture rows).maximum = limit preamble.header.depth := by
    simp [Picture.maximum, Preamble.picture, limit]
  rw [top]
  exact sample_le rows _ _ _ depth

theorem mem_of_mem_depths {colors : ColorType} :
    ∀ depth ∈ colors.depths, depth ∈ [1, 2, 4, 8, 16] := by
  cases colors <;> decide

theorem depth_mem_of_read? {bytes : ByteArray} {header : Header}
    (read : Header.read? bytes = some header) : header.depth ∈ [1, 2, 4, 8, 16] := by
  obtain ⟨colors, _, kept⟩ := Option.bind_eq_some_iff.mp read
  split at kept
  · rename_i passes
    cases kept
    exact mem_of_mem_depths _ (List.contains_iff_mem.mp passes.2.2.2.1)
  · cases kept

/-- Further chunks do not touch the header. -/
theorem header_add? {preamble next : Preamble} {file : ByteArray} {chunk : Chunk}
    (added : preamble.add? file chunk = some next) : next.header = preamble.header := by
  unfold Preamble.add? at added
  repeat' split at added
  all_goals cases added <;> rfl

theorem header_contents? {file data : ByteArray} {fuel place : Nat} {preamble last : Preamble}
    (found : contents? file fuel place preamble = some (last, data)) :
    last.header = preamble.header := by
  induction fuel generalizing place preamble with
  | zero => cases found
  | succ fuel ih =>
      unfold contents? at found
      split at found
      · cases found
      · split at found
        · obtain ⟨_, _, same⟩ := Option.map_eq_some_iff.mp found
          cases same
          rfl
        · split at found
          · obtain ⟨next, added, rest⟩ := Option.bind_eq_some_iff.mp found
            exact (ih rest).trans (header_add? added)
          · split at found
            · exact ih found
            · cases found

theorem isSound_decode? {file : ByteArray} {picture : Picture}
    (decoded : decode? file = some picture) : picture.IsSound := by
  unfold decode? at decoded
  split at decoded
  · cases decoded
  · obtain ⟨first, _, decoded⟩ := Option.bind_eq_some_iff.mp decoded
    split at decoded
    · cases decoded
    · obtain ⟨header, read, decoded⟩ := Option.bind_eq_some_iff.mp decoded
      obtain ⟨⟨preamble, data⟩, found, decoded⟩ := Option.bind_eq_some_iff.mp decoded
      dsimp only at decoded
      split at decoded
      · cases decoded
      · obtain ⟨filtered, _, decoded⟩ := Option.bind_eq_some_iff.mp decoded
        split at decoded
        · cases decoded
        · obtain ⟨rows, _, same⟩ := Option.bind_eq_some_iff.mp decoded
          cases same
          refine isSound_picture rows ?_
          rw [header_contents? found]
          exact depth_mem_of_read? read

end Png

/-- A picture that has the kind of pixels a raster has keeps each of its samples. -/
theorem Picture.IsSound.samples_raster {picture : Picture} (sound : picture.IsSound)
    (kind : picture.kind = .rgba) (shallow : picture.deep = false) :
    picture.raster.bytes.data.map UInt8.toNat = picture.samples := by
  have size : picture.samples.size = picture.width * picture.height * 4 := by
    rw [sound.size, kind]
    rfl
  refine Array.ext (by simp [raster, Raster.ofFn, size]) fun index _ inside => ?_
  have whole : index / 4 * 4 + index % 4 = index := Nat.div_add_mod' index 4
  have small : picture.samples[index] ≤ 255 := by
    have bound := sound.range _ (Array.getElem_mem inside)
    rwa [maximum, shallow] at bound
  have read : picture.samples.getD (index / 4 * 4 + index % 4) 0 = picture.samples[index] := by
    rw [whole]
    simp [Array.getD, inside]
  have byte : picture.byteAt (index / 4) (index % 4) = picture.samples[index].toUInt8 := by
    rw [← read]
    simp [Picture.byteAt, kind, byteOf, shallow, sample, PixelKind.channels]
  simp [raster, Raster.ofFn, byte, Nat.mod_eq_of_lt (Nat.lt_succ_of_le small)]

end Marquee.Image
