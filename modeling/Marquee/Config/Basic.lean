import Marquee.Message.Outbound
import Marquee.Session

/-!
The configuration of the plugin and what follows from it: the period of the loops, how many
characters fit on a button, and the size of the artwork.
-/

namespace Marquee

def clamp (least greatest value : Nat) : Nat := max least (min greatest value)

structure AnimationConfig where
  /-- Milliseconds between two frames, where a button does not say otherwise. -/
  refresh : Nat := 250
  /-- Width of a button's face in pixels. -/
  pixelWidth : Nat := 72
  fontSize : Option Nat := none
  target : Target := .both
deriving DecidableEq, Repr, Inhabited

namespace AnimationConfig

def period (config : AnimationConfig) : Nat := clamp 16 60000 config.refresh

/-- The characters that fit on a button: about one for each half pixel of the font size. A size of
zero means that none is known, and nothing is shown. -/
def textWidth (config : AnimationConfig) (fontSize : Nat) : Nat :=
  if fontSize = 0 then 0 else max config.pixelWidth 1 / max (fontSize / 2) 1

def initialWidth (config : AnimationConfig) : Nat :=
  match config.fontSize with
  | some size => config.textWidth size
  | none => 0

end AnimationConfig

def artworkEdge (configured : Nat) : Nat := clamp 16 288 configured

structure Config where
  animation : AnimationConfig := {}
  artwork : Nat := 72
  titleFormat : TitleFormat := .title
  filter : String := "info"
deriving DecidableEq, Repr, Inhabited

end Marquee
