import Marquee.Controller.Basic
import Marquee.Settings

/-!
The life of a button. Its settings start a new loop for it in five parts: the button is found or
made and its former loop taken from it; that loop is ended; the new one is started and makes its
first pass; the new loop is installed; and the loop that the installation displaced or rejected is
ended. Between two of these parts other calls may change the registry, and so the installation
looks whether the button is still the one that the loop was started for.
-/

namespace Marquee.Controller

def periodFor (controller : Controller) (settings : Json) : Nat :=
  (ButtonSettings.ofJson settings).period controller.animation.period

/-- The button of a context is found or made and has to be drawn; its loop is taken from it. Gives
the number of its face and the loop. -/
def takeOver (controller : Controller) (context : String) : Controller × Nat × Option Nat :=
  match controller.registry.find? context with
  | some entry =>
    let (animator, previous) := entry.animator.take
    ({ controller with
      panel := controller.panel.changeFace entry.face Face.markDirty
      registry := controller.registry.insert context ⟨entry.face, animator⟩ }, entry.face, previous)
  | none =>
    let width := controller.animation.initialWidth
    let newcomer : Face := { context := context, width := width }
    let (panel, face) := controller.panel.addFace newcomer.markDirty
    ({ controller with
      panel := panel
      registry := controller.registry.insert context ⟨face, {}⟩ }, face, none)

def spawn (controller : Controller) (context : String) (face period : Nat) : Controller × Nat :=
  let controller := controller.noteFrom loopTarget .debug "starting button loop"
    [("context", .text context), ("period_ms", .number period)]
  let (panel, loop) := controller.panel.startLoop face period
  ({ controller with panel := panel }, loop)

/-- A loop is installed in the button that it was started for. Tells whether that button is still
there, and gives the loop that has to be ended. -/
def install (controller : Controller) (context : String) (face loop : Nat) :
    Controller × Bool × Option Nat :=
  match controller.registry.find? context with
  | some entry =>
    if entry.face = face then
      let (animator, displaced) := entry.animator.install loop
      ({ controller with registry := controller.registry.insert context ⟨face, animator⟩ }, true,
        displaced)
    else
      (controller, false, some loop)
  | none => (controller, false, some loop)

/-- The end of the former loop, which may still be in the middle of a call to the host; `inside` is
what the host does before it returns from there. -/
def endFormer (controller : Controller) (inside : Controller → Controller) : Option Nat → Controller
  | some loop => (inside controller).endLoop? (some loop)
  | none => controller

def noteStarted (controller : Controller) (context : String) (period : Nat) (installed : Bool) :
    Controller :=
  if installed then
    controller.note .info "button loop running"
      [("context", .text context), ("period_ms", .number period)]
  else
    controller.note .debug "button went away while its loop was starting"
      [("context", .text context)]

def configure (controller : Controller) (inside : Controller → Controller) (context : String)
    (settings : Json) : Controller :=
  let period := controller.periodFor settings
  let (controller, face, former) := controller.takeOver context
  let controller := controller.endFormer inside former
  let (controller, loop) := controller.spawn context face period
  let (controller, installed, rejected) := (controller.pass loop).install context face loop
  (controller.endLoop? rejected).noteStarted context period installed

def appear (controller : Controller) (context : String) (settings : Json) : Controller :=
  (controller.note .debug "button appeared" [("context", .text context)]).configure id context
    settings

def changeSettings (controller : Controller) (inside : Controller → Controller) (context : String)
    (settings : Json) : Controller :=
  (controller.note .debug "button settings received" [("context", .text context)]).configure inside
    context settings

def remove (controller : Controller) (context : String) : Option (Controller × Option Nat) :=
  (controller.registry.find? context).map fun entry =>
    ({ controller with registry := controller.registry.erase context }, entry.animator.stop.2)

def disappear (controller : Controller) (context : String) : Controller :=
  match controller.remove context with
  | none => controller
  | some (controller, loop) =>
    (controller.endLoop? loop).note .debug "button disappeared" [("context", .text context)]

/-- The font size of a button's title changed, and with it the number of characters that fit; the
title goes on from where it is. A button that is not on the deck is not remembered. -/
def changeFont (controller : Controller) (context : String) (size : Nat) : Controller :=
  match controller.registry.find? context with
  | some entry =>
    let width := controller.animation.textWidth size
    let panel := controller.panel.changeFace entry.face (·.setWidth width)
    { controller with panel := panel }.note .debug "text width updated"
      [("context", .text context), ("font_size", .number size), ("width", .number width)]
  | none =>
    controller.note .debug "title parameters for unknown button"
      [("context", .text context), ("font_size", .number size)]

def drain (controller : Controller) : Controller × List Nat :=
  ({ controller with registry := {} }, controller.registry.tasks)

def shutdown (controller : Controller) : Controller :=
  let (controller, loops) := { controller with sampler := controller.sampler.detach }.drain
  { controller with panel := controller.panel.endLoops loops }

def drop (controller : Controller) : Controller :=
  let controller := controller.shutdown
  { controller with sampler := controller.sampler.drop }

end Marquee.Controller
