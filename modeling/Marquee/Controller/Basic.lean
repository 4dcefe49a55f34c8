import Marquee.Button.Panel
import Marquee.Config.Basic
import Marquee.Controller.Registry
import Marquee.Sampler.Notice

/-!
The controller ties the parts together: the sampler with its media, the panel with the faces and
loops of the buttons, and the registry of the buttons that are on the deck.
-/

namespace Marquee

structure Controller where
  animation : AnimationConfig
  sampler : Sampler
  panel : Panel := {}
  registry : Registry := {}
deriving Inhabited

namespace Controller

def logTarget : String := "nowplaying_deck::controller"

def loopTarget : String := "nowplaying_deck::animator"

def noteFrom (controller : Controller) (target : String) (level : Log.Level) (message : String)
    (values : List (String × Log.Value)) : Controller :=
  let event := Log.event level target message values
  { controller with
    sampler := { controller.sampler with log := controller.sampler.log ++ [event] } }

def note (controller : Controller) (level : Log.Level) (message : String)
    (values : List (String × Log.Value)) : Controller :=
  controller.noteFrom logTarget level message values

def media (controller : Controller) : NowPlaying := controller.sampler.media

def markAllDirty (controller : Controller) : Controller :=
  let mark (panel : Panel) (face : Nat) : Panel := panel.changeFace face Face.markDirty
  { controller with panel := controller.registry.faces.foldl mark controller.panel }

/-- The controller after something that may have published new media, which every button then has to
draw. -/
def published (controller : Controller) : Sampler × Bool → Controller
  | (sampler, changed) =>
    let controller := { controller with sampler := sampler }
    if changed then controller.markAllDirty else controller

def start (config : Config) (source : Source) (decoder : Artwork.Decoder := Artwork.decode?) :
    Controller :=
  let sampler : Sampler :=
    { source := source, format := config.titleFormat, edge := artworkEdge config.artwork
      decoder := decoder }
  let controller : Controller := { animation := config.animation, sampler := sampler }
  (controller.published sampler.attach).note .info "media controller started" []

def refresh (controller : Controller) : Controller × Bool :=
  let (sampler, changed) := controller.sampler.sample
  (controller.published (sampler, changed), changed)

def notify (controller : Controller) (token : String) (change : MediaChange) : Controller :=
  controller.published (controller.sampler.notify token change)

def pass (controller : Controller) (loop : Nat) : Controller :=
  { controller with
    panel := controller.panel.pass controller.media controller.animation.target loop }

def endLoop? (controller : Controller) (loop : Option Nat) : Controller :=
  { controller with panel := controller.panel.endLoop? loop }

def contexts (controller : Controller) : List String :=
  controller.registry.contexts.mergeSort fun left right => decide (left ≤ right)

def textWidth? (controller : Controller) (context : String) : Option Nat :=
  (controller.registry.find? context).bind fun entry =>
    (controller.panel.faces[entry.face]?).map Face.width

def widths (controller : Controller) : List (String × Nat) :=
  controller.registry.entries.map fun entry =>
    (entry.1, ((controller.panel.faces[entry.2.face]?).map Face.width).getD 0)

end Controller

end Marquee
