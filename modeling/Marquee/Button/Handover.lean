import Marquee.Button.Animator
import Marquee.Button.Panel

/-!
Handing loops over: one button with its animator, and one place in which a loop that was taken
from the animator can be held before it is put back. A loop that is displaced from either place is
ended, so every loop there ever was is installed, held or over.
-/

namespace Marquee

structure Handover where
  panel : Panel
  media : NowPlaying
  target : Target
  animator : Animator := {}
  /-- The loop that was taken and not yet put back. -/
  held : Option Nat := none
deriving DecidableEq, Repr, Inhabited

namespace Handover

def start (context : String) (width : Nat) (media : NowPlaying) (target : Target) : Handover :=
  ⟨⟨[{ context := context, width := width }], [], []⟩, media, target, {}, none⟩

def face (state : Handover) : Face := state.panel.faces.headD default

def changeFace (state : Handover) (change : Face → Face) : Handover :=
  { state with panel := state.panel.changeFace 0 change }

def install (state : Handover) (loop : Nat) : Handover × Bool :=
  let (animator, displaced) := state.animator.install loop
  ({ state with animator := animator, panel := state.panel.endLoop? displaced }, displaced.isSome)

def spawn (state : Handover) (period : Nat) : Handover × Bool :=
  let (panel, loop) := state.panel.startLoop 0 period
  { state with panel := panel.pass state.media state.target loop }.install loop

def take (state : Handover) : Handover × Bool :=
  let (animator, taken) := state.animator.take
  ({ state with animator := animator, held := taken, panel := state.panel.endLoop? state.held },
    taken.isSome)

def put (state : Handover) : Handover × Option Bool :=
  match state.held with
  | none => (state, none)
  | some loop =>
    let (state, displaced) := { state with held := none }.install loop
    (state, some displaced)

def stop (state : Handover) : Handover :=
  let (animator, ended) := state.animator.stop
  { state with animator := animator, panel := state.panel.endLoop? ended }

def replaceMedia (state : Handover) (media : NowPlaying) : Handover × Bool :=
  let (media, changed) := state.media.replace media
  ({ state with media := media }, changed)

end Handover

end Marquee
