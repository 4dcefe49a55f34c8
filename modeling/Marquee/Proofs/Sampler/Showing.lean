import Marquee.Config.Basic
import Marquee.Proofs.Artwork.Encoding
import Marquee.Proofs.Sampler.Reading

/-!
What is to be seen on the buttons. A source shows the title of the session that counts, and beside
it the picture of its thumbnail as a square, where there is one that can be decoded; it shows
exactly one thing. That a URL holds the picture is said by reading it back.
-/

namespace Marquee

open Image

namespace Artwork

structure Draws (picture : Picture) (edge : Nat) (url : String) : Prop where
  written : url = dataUrl (picture.scale edge edge).raster
  shown : ofDataUrl? url = some (picture.scale edge edge).raster
  square : IsSquare edge url

theorem draws_iff {picture : Picture} {edge : Nat} (positive : 1 ≤ edge)
    (small : edge < 4294967296) {url : String} :
    Draws picture edge url ↔ url = dataUrl (picture.scale edge edge).raster := by
  constructor
  · exact Draws.written
  · rintro rfl
    exact ⟨rfl, ofDataUrl?_scale picture positive small, isSquare_scale picture positive small⟩

end Artwork

namespace Source

variable {source : Source} {format : TitleFormat} {decoder : Artwork.Decoder} {edge : Nat}

inductive Pictures (source : Source) (decoder : Artwork.Decoder) (edge : Nat) (id : String) :
    String → Prop
  | square {bytes : ByteArray} {picture : Picture} {url : String}
    (held : source.thumbnails.lookup id = some bytes) (decoded : decoder bytes = some picture)
    (drawn : Artwork.Draws picture edge url) : Pictures source decoder edge id url
  | undecodable {bytes : ByteArray} (held : source.thumbnails.lookup id = some bytes)
    (fails : decoder bytes = none) : Pictures source decoder edge id ""
  | missing (none : source.thumbnails.lookup id = none) : Pictures source decoder edge id ""

inductive Shows (source : Source) (format : TitleFormat) (decoder : Artwork.Decoder) (edge : Nat) :
    NowPlaying → Prop
  | titled {session : Session} {image : String} (plays : source.titled? = some session)
    (pictured : source.Pictures decoder edge session.id image) :
    Shows source format decoder edge ⟨session.heading format, image⟩
  | silent (none : source.titled? = none) : Shows source format decoder edge .silent

theorem pictures_iff (positive : 1 ≤ edge) (small : edge < 4294967296) {id image : String} :
    source.Pictures decoder edge id image ↔ image = source.artwork decoder edge id := by
  have some : edge ≠ 0 := Nat.one_le_iff_ne_zero.mp positive
  constructor
  · intro pictures
    cases pictures with
    | square held decoded drawn =>
        simp only [artwork, held, Option.map_some, Option.getD_some, Artwork.shown, decoded,
          if_neg some, drawn.written]
    | undecodable held fails =>
        simp only [artwork, held, Option.map_some, Option.getD_some, Artwork.shown, fails]
    | missing none => simp only [artwork, none, Option.map_none, Option.getD_none]
  · rintro rfl
    unfold artwork
    cases held : source.thumbnails.lookup id with
    | none => exact .missing held
    | some bytes =>
        simp only [Option.map_some, Option.getD_some, Artwork.shown]
        cases decoded : decoder bytes with
        | none => exact .undecodable held decoded
        | some picture =>
            simp only [if_neg some]
            exact .square held decoded ((Artwork.draws_iff positive small).mpr rfl)

theorem shows_iff (positive : 1 ≤ edge) (small : edge < 4294967296) {next : NowPlaying} :
    source.Shows format decoder edge next ↔ next = source.nowPlaying format decoder edge := by
  constructor
  · intro shows
    cases shows with
    | titled plays pictured =>
        simp only [nowPlaying, plays, (pictures_iff positive small).mp pictured]
    | silent none => simp only [nowPlaying, none]
  · rintro rfl
    unfold nowPlaying
    cases plays : source.titled? with
    | none => exact .silent plays
    | some session => exact .titled plays ((pictures_iff positive small).mpr rfl)

/-- A source shows exactly what is read of it, with any edge that can be configured. -/
theorem shows_configured (source : Source) (format : TitleFormat) (decoder : Artwork.Decoder)
    (artwork : Nat) (next : NowPlaying) :
    source.Shows format decoder (max 16 (min 288 artwork)) next ↔
      next = source.nowPlaying format decoder (artworkEdge artwork) :=
  shows_iff (by omega) (by omega)

end Source

end Marquee
