import Marquee.Artwork
import Marquee.Proofs.Image.Sound
import Marquee.Proofs.Text.Base64

/-!
Artwork is a full square of the edge that was asked for, whatever the size and the pixels of the
thumbnail, or there is none because the thumbnail cannot be decoded or nothing was asked for. That
it is one is read from the data URL itself.
-/

namespace Marquee

open Image

namespace Artwork

theorem ofDataUrl?_dataUrl {raster : Raster} (wide : 0 < raster.width ∧ raster.width < 4294967296)
    (high : 0 < raster.height ∧ raster.height < 4294967296) :
    ofDataUrl? (dataUrl raster) = some raster := by
  have begins : (dataUrl raster).startsWith urlStart = true := by
    rw [String.startsWith_string_iff, dataUrl, String.toList_append]
    exact List.prefix_append _ _
  have rest : (dataUrl raster).toList.drop urlStart.length =
      Text.Base64.encode (Png.encode raster).data.toList := by
    rw [dataUrl, String.toList_append, String.toList_ofList, ← String.length_toList,
      List.drop_left]
  rw [ofDataUrl?, if_pos begins, rest, Text.Base64.decode_encode]
  simp only [Option.bind_eq_bind, Option.bind_some, Png.decode?_encode wide high,
    Png.raster_picture]

def IsSquare (edge : Nat) (url : String) : Prop :=
  ∃ raster, ofDataUrl? url = some raster ∧ raster.width = edge ∧ raster.height = edge

def Shown (edge : Nat) (image : String) : Prop := image = "" ∨ IsSquare edge image

def Decoder.IsSound (decoder : Decoder) : Prop :=
  ∀ bytes picture, decoder bytes = some picture → picture.IsSound

section Encoding

variable {decoder : Decoder} {bytes : ByteArray} {edge : Nat} {picture : Picture}

/-- The ways in which encoding comes out. -/
theorem encodeBy_cases (decoder : Decoder) (bytes : ByteArray) (edge : Nat) :
    (decoder bytes = none ∧ encodeBy decoder bytes edge = .error .undecodable) ∨
      (∃ picture, decoder bytes = some picture ∧ edge = 0 ∧
        encodeBy decoder bytes edge = .error .empty) ∨
      ∃ picture, decoder bytes = some picture ∧ 1 ≤ edge ∧
        encodeBy decoder bytes edge = .ok (dataUrl (picture.scale edge edge).raster) := by
  cases decoded : decoder bytes with
  | none =>
      left
      rw [encodeBy, squareBy, decoded]
      exact ⟨rfl, rfl⟩
  | some picture =>
      right
      rw [encodeBy, squareBy, decoded]
      by_cases none : edge = 0
      · refine Or.inl ⟨picture, rfl, none, ?_⟩
        simp only [if_pos none]
        rfl
      · refine Or.inr ⟨picture, rfl, Nat.one_le_iff_ne_zero.mpr none, ?_⟩
        simp only [if_neg none]
        rfl

theorem encodeBy_decoded (decoded : decoder bytes = some picture) (positive : 1 ≤ edge) :
    encodeBy decoder bytes edge = .ok (dataUrl (picture.scale edge edge).raster) := by
  rcases encodeBy_cases decoder bytes edge with
    ⟨fails, _⟩ | ⟨_, _, none, _⟩ | ⟨found, known, _, same⟩
  · cases fails.symm.trans decoded
  · omega
  · cases known.symm.trans decoded
    exact same

theorem ofDataUrl?_scale (picture : Picture) (positive : 1 ≤ edge) (small : edge < 4294967296) :
    ofDataUrl? (dataUrl (picture.scale edge edge).raster) =
      some (picture.scale edge edge).raster := by
  have width : (picture.scale edge edge).raster.width = edge := picture.width_scale edge edge
  have height : (picture.scale edge edge).raster.height = edge := picture.height_scale edge edge
  exact ofDataUrl?_dataUrl (by rw [width]; exact ⟨positive, small⟩)
    (by rw [height]; exact ⟨positive, small⟩)

theorem isSquare_scale (picture : Picture) (positive : 1 ≤ edge) (small : edge < 4294967296) :
    IsSquare edge (dataUrl (picture.scale edge edge).raster) :=
  ⟨_, ofDataUrl?_scale picture positive small, picture.width_scale edge edge,
    picture.height_scale edge edge⟩

structure Encodes (decoder : Decoder) (bytes : ByteArray) (edge : Nat) : Prop where
  undecodable : (∃ fault, encodeBy decoder bytes edge = .error fault ∧
    fault.message = "Failed to decode thumbnail") ↔ decoder bytes = none
  empty : (∃ fault, encodeBy decoder bytes edge = .error fault ∧
    fault.message = "Failed to encode button image") ↔ edge = 0 ∧ decoder bytes ≠ none
  square : ∀ picture, decoder bytes = some picture → 1 ≤ edge →
    ∃ url raster, encodeBy decoder bytes edge = .ok url ∧ ofDataUrl? url = some raster ∧
      raster.width = edge ∧ raster.height = edge ∧
        (picture.width = edge → picture.height = edge → picture.kind = .rgba →
          picture.deep = false → raster.bytes.data.map UInt8.toNat = picture.samples)

theorem encodes (sound : decoder.IsSound) (bytes : ByteArray) (small : edge < 4294967296) :
    Encodes decoder bytes edge := by
  have ways := encodeBy_cases decoder bytes edge
  constructor
  · rcases ways with ⟨fails, same⟩ | ⟨picture, decoded, _, same⟩ | ⟨picture, decoded, _, same⟩
    · simp [same, fails, ArtworkFault.message]
    · simp [same, decoded, ArtworkFault.message]
    · simp [same, decoded]
  · rcases ways with ⟨fails, same⟩ | ⟨picture, decoded, none, same⟩ | ⟨picture, _, positive, same⟩
    · simp [same, fails, ArtworkFault.message]
    · subst none
      simp [same, decoded, ArtworkFault.message]
    · have some : edge ≠ 0 := Nat.one_le_iff_ne_zero.mp positive
      simp [same, some]
  · intro picture decoded positive
    refine ⟨_, _, encodeBy_decoded decoded positive, ofDataUrl?_scale picture positive small,
      picture.width_scale edge edge, picture.height_scale edge edge, ?_⟩
    rintro rfl high kind shallow
    have unchanged := picture.scale_self
    rw [high] at unchanged
    rw [unchanged]
    exact (sound bytes picture decoded).samples_raster kind shallow

end Encoding

theorem isSound_decode? : Decoder.IsSound decode? := by
  intro bytes picture decoded
  unfold decode? at decoded
  split at decoded
  · exact Png.isSound_decode? decoded
  · exact Bitmap.isSound_decode? decoded

theorem decode?_encode {raster : Raster} (wide : 0 < raster.width ∧ raster.width < 4294967296)
    (high : 0 < raster.height ∧ raster.height < 4294967296) :
    decode? (Png.encode raster) = some ((Png.Preamble.of raster).picture raster.bytes) := by
  simp only [decode?]
  rw [Png.hasSignature_encode, if_pos rfl, Png.decode?_encode wide high]

end Artwork

end Marquee
