import Marquee.Artwork
import Marquee.Log.Event
import Marquee.NowPlaying
import Marquee.Source

/-!
The sampler keeps what the buttons show in step with the media source. It holds the registrations
it made at the source, and a sample in progress locks out every other one.
-/

namespace Marquee

structure Sampler where
  source : Source := {}
  format : TitleFormat := .title
  /-- The edge of the artwork in pixels. -/
  edge : Nat
  /-- How thumbnails are decoded. -/
  decoder : Artwork.Decoder := Artwork.decode?
  /-- What every button shows. -/
  media : NowPlaying := .silent
  /-- How often the media were published. -/
  published : Nat := 0
  /-- Whether a sample is in progress. -/
  busy : Bool := false
  /-- The registrations for the source as a whole. -/
  manager : List Nat := []
  /-- The registrations for single sessions, by session. -/
  sessions : List (String × List Nat) := []
  /-- Whether the sampler is still there to handle notifications. -/
  alive : Bool := true
  log : List Log.Event := []
deriving Inhabited

namespace Sampler

def logTarget : String := "nowplaying_deck::sampler"

def note (sampler : Sampler) (level : Log.Level) (message : String)
    (values : List (String × Log.Value)) : Sampler :=
  { sampler with log := sampler.log ++ [Log.event level logTarget message values] }

def noteFailure (sampler : Sampler) (message : String) (request : SourceRequest) : Sampler :=
  sampler.note .warn message [("error", .text request.failure)]

def edit (sampler : Sampler) (change : SourceEdit) : Sampler :=
  { sampler with source := sampler.source.edit change }

def subscribed (sampler : Sampler) : List String := sampler.sessions.map Prod.fst

end Sampler

end Marquee
