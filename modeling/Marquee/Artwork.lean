import Marquee.Image.Bitmap
import Marquee.Image.Png.Decode
import Marquee.Image.Png.Encode
import Marquee.Image.Scale
import Marquee.Text.Base64

/-!
Artwork for buttons: the bytes of a thumbnail become a square raster of a given edge, and the
raster a data URL, which is the form in which the deck software takes images. Which files there are
and what they hold is the business of the decoder, so that nothing depends on the one that is used.
-/

namespace Marquee

inductive ArtworkFault where
  | undecodable
  /-- A square without pixels is no image. -/
  | empty
deriving DecidableEq, Repr

def ArtworkFault.message : ArtworkFault → String
  | undecodable => "Failed to decode thumbnail"
  | empty => "Failed to encode button image"

namespace Artwork

open Image

/-- The picture that the bytes of a file hold, if they hold one. -/
abbrev Decoder := ByteArray → Option Picture

def squareBy (decoder : Decoder) (bytes : ByteArray) (edge : Nat) : Except ArtworkFault Raster :=
  match decoder bytes with
  | none => .error .undecodable
  | some picture => if edge = 0 then .error .empty else .ok (picture.scale edge edge).raster

def urlStart : String := "data:image/png;base64,"

def dataUrl (raster : Raster) : String :=
  urlStart ++ String.ofList (Text.Base64.encode (Png.encode raster).data.toList)

def encodeBy (decoder : Decoder) (bytes : ByteArray) (edge : Nat) : Except ArtworkFault String :=
  (squareBy decoder bytes edge).map dataUrl

def ofDataUrl? (url : String) : Option Raster := do
  if url.startsWith urlStart then
    let file ← Text.Base64.decode (url.toList.drop urlStart.length)
    let picture ← Png.decode? file
    some picture.raster
  else
    none

/-- A decoder for two kinds of files, which is used where no other one is given. -/
def decode? : Decoder := fun bytes =>
  if Png.hasSignature bytes then Png.decode? bytes else Bitmap.decode? bytes

def encode (bytes : ByteArray) (edge : Nat) : Except ArtworkFault String :=
  encodeBy decode? bytes edge

end Artwork

end Marquee
