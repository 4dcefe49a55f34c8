import Marquee.Button.Face
import Marquee.Message.Outbound
import Marquee.NowPlaying
import Marquee.Scroll

/-!
Drawing one frame of a button. A draw is a sequence of steps, and between any two of them the face
and the media may be changed by others; so each step is a function of its own, and a whole draw
runs them one after another. The generation of the flag is read before the media, so that a
publish in between raises a newer generation than the one that this draw clears.
-/

namespace Marquee

structure Scene where
  face : Face
  media : NowPlaying
deriving DecidableEq, Repr, Inhabited

inductive DrawStage where
  /-- Nothing is read yet. -/
  | start (tick : Nat)
  /-- The width is read, and it is not zero. -/
  | sized (tick width : Nat)
  /-- The newest generation is read. -/
  | raisedRead (tick width : Nat) (raised : UInt64)
  /-- It is known whether a generation is pending. -/
  | decided (tick width : Nat) (redraw : Option UInt64)
  /-- Title and image are read. -/
  | mediaRead (tick width : Nat) (redraw : Option UInt64) (media : NowPlaying)
  /-- The image has been sent, where a generation was pending. -/
  | pictured (frame : Scroll.Frame) (redraw : Option UInt64)
  /-- The generation has been cleared, where something is visible. -/
  | cleared (frame : Scroll.Frame)
  /-- The title has been sent, or the width was zero. -/
  | done (next : Nat)
deriving DecidableEq, Repr, Inhabited

structure Drawing where
  stage : DrawStage
  scene : Scene
  sent : List HostCall := []
deriving DecidableEq, Repr, Inhabited

namespace Drawing

/-- The image, sent where a generation is pending; the title then starts over. -/
def sendImage (drawing : Drawing) (target : Target) (inside : HostCall → Scene → Scene)
    (tick width : Nat) (redraw : Option UInt64) (media : NowPlaying) : Drawing :=
  match redraw with
  | none => { drawing with stage := .pictured (Scroll.advance media.title width tick) none }
  | some generation =>
    let call := .setImage drawing.scene.face.context media.image target
    ⟨.pictured (Scroll.advance media.title width 0) (some generation), inside call drawing.scene,
      drawing.sent ++ [call]⟩

/-- The generation is cleared only where the frame shows something. -/
def clear (drawing : Drawing) (frame : Scroll.Frame) (redraw : Option UInt64) : Drawing :=
  match redraw with
  | some generation =>
    if frame.visible.isEmpty then
      { drawing with stage := .cleared frame }
    else
      let face := drawing.scene.face
      ⟨.cleared frame, ⟨{ face with flag := face.flag.consume generation }, drawing.scene.media⟩,
        drawing.sent⟩
  | none => { drawing with stage := .cleared frame }

/-- The title is always sent, so that an empty one blanks the button. -/
def sendTitle (drawing : Drawing) (target : Target) (inside : HostCall → Scene → Scene)
    (frame : Scroll.Frame) : Drawing :=
  let call := .setTitle drawing.scene.face.context frame.visible target
  ⟨.done frame.next, inside call drawing.scene, drawing.sent ++ [call]⟩

/-- One step of a draw. `inside` is what the host does to the scene while it takes a call. -/
def step (drawing : Drawing) (target : Target) (inside : HostCall → Scene → Scene) : Drawing :=
  match drawing.stage with
  | .start tick =>
    let width := drawing.scene.face.width
    { drawing with stage := if width = 0 then .done tick else .sized tick width }
  | .sized tick width =>
    { drawing with stage := .raisedRead tick width drawing.scene.face.flag.raised }
  | .raisedRead tick width raised =>
    { drawing with stage := .decided tick width (drawing.scene.face.flag.pendingAt raised) }
  | .decided tick width redraw =>
    { drawing with stage := .mediaRead tick width redraw drawing.scene.media }
  | .mediaRead tick width redraw media => drawing.sendImage target inside tick width redraw media
  | .pictured frame redraw => drawing.clear frame redraw
  | .cleared frame => drawing.sendTitle target inside frame
  | .done _ => drawing

def run (drawing : Drawing) (target : Target) (inside : HostCall → Scene → Scene) : Nat → Drawing
  | 0 => drawing
  | steps + 1 => (drawing.step target inside).run target inside steps

end Drawing

structure Drawn where
  next : Nat
  scene : Scene
  sent : List HostCall
deriving DecidableEq, Repr, Inhabited

def Scene.draw (scene : Scene) (target : Target) (inside : HostCall → Scene → Scene) (tick : Nat) :
    Drawn :=
  let drawing := Drawing.run ⟨.start tick, scene, []⟩ target inside 7
  ⟨match drawing.stage with
    | .done next => next
    | _ => tick, drawing.scene, drawing.sent⟩

def Scene.undisturbed (_ : HostCall) (scene : Scene) : Scene := scene

end Marquee
