import Marquee.Proofs.Deck.Turns
import Marquee.Proofs.Sampler.Unlogged
import Marquee.Proofs.Traffic.Flags

/-!
The controller as one button sees it: its own face, its own loop, the calls that the host got for
it, and the sampler, which all buttons share. What a turn does to this aspect follows from the
aspect alone, and a turn that concerns another button only leaves it as it is.
-/

namespace Marquee

structure Button where
  face : Face
  period : Nat
  tick : Nat
deriving DecidableEq, Repr

namespace Panel

def paceOf (panel : Panel) (loop : Nat) : Option (Nat × Nat) :=
  (panel.loops[loop]?).map fun loop => (loop.period, loop.tick)

theorem paceOf_markAll (panel : Panel) (faces : List Nat) (loop : Nat) :
    (panel.markAll faces).paceOf loop = panel.paceOf loop := by
  induction faces generalizing panel with
  | nil => rfl
  | cons face rest ih => exact ih (panel.changeFace face Face.markDirty)

theorem paceOf_endLoop (panel : Panel) (ended loop : Nat) :
    (panel.endLoop ended).paceOf loop = panel.paceOf loop := by
  simp only [paceOf, endLoop, List.getElem?_modify]
  cases panel.loops[loop]? with
  | none => rfl
  | some found =>
      by_cases same : ended = loop
      · simp [same]
      · simp [same]

theorem paceOf_endLoop? (panel : Panel) (ended : Option Nat) (loop : Nat) :
    (panel.endLoop? ended).paceOf loop = panel.paceOf loop := by
  cases ended with
  | none => rfl
  | some number => exact panel.paceOf_endLoop number loop

theorem sent_endLoops (panel : Panel) (loops : List Nat) :
    (panel.endLoops loops).sent = panel.sent := by
  induction loops generalizing panel with
  | nil => rfl
  | cons loop rest ih => exact ih (panel.endLoop loop)

theorem paceOf_startLoop (panel : Panel) (face period : Nat) {loop : Nat} {pace : Nat × Nat}
    (known : panel.paceOf loop = some pace) :
    (panel.startLoop face period).1.paceOf loop = some pace := by
  obtain ⟨found, present, same⟩ := Option.map_eq_some_iff.mp known
  have bound := (List.getElem?_eq_some_iff.mp present).1
  simp only [paceOf, startLoop, List.getElem?_append_left bound]
  exact known

theorem paceOf_startLoop_self (panel : Panel) (face period : Nat) :
    (panel.startLoop face period).1.paceOf panel.loops.length = some (period, 0) := by
  simp [paceOf, startLoop]

end Panel

namespace Controller

def buttonAt (controller : Controller) (context : String) : Option Button :=
  (controller.registry.find? context).bind fun entry =>
    (controller.panel.faces[entry.face]?).bind fun face =>
      entry.animator.task.bind fun loop =>
        (controller.panel.paceOf loop).map fun pace => ⟨face, pace.1, pace.2⟩

def sentTo (controller : Controller) (context : String) : List HostCall :=
  controller.panel.sent.filter fun call => call.context? == some context

end Controller

@[ext]
structure Aspect where
  animation : AnimationConfig
  /-- The sampler without its log, to which all buttons add lines. -/
  sampler : Sampler
  button : Option Button
  sent : List HostCall

def Controller.aspect (controller : Controller) (context : String) : Aspect :=
  ⟨controller.animation, controller.sampler.unlogged, controller.buttonAt context,
    controller.sentTo context⟩

def HostEvent.owner? : HostEvent → Option String
  | willAppear context _ => some context
  | willDisappear context => some context
  | didReceiveSettings context _ => some context
  | titleParametersDidChange context _ => some context
  | keyDown context => some context
  | keyUp context => some context
  | sendToPlugin context => some context
  | deviceDidConnect _ => none
  | deviceDidDisconnect _ => none
  | unknown _ => none

namespace Turn

/-- The button that a turn is for; `none` if it is for no button or for all of them. -/
def owner? : Turn → Option String
  | .event told => told.owner?
  | .message raw =>
    match HostEvent.read raw with
    | .ok told => told.owner?
    | .error _ => none
  | .tick context => some context
  | _ => none

def concerns (turn : Turn) (context : String) : Bool := turn.owner?.all (· == context)

end Turn

namespace Aspect

def media (aspect : Aspect) : NowPlaying := aspect.sampler.media

def restart (aspect : Aspect) (context : String) (settings : Json) : Aspect :=
  let newcomer : Face := { context := context, width := aspect.animation.initialWidth }
  let face := (aspect.button.map Button.face).getD newcomer
  let period := (ButtonSettings.ofJson settings).period aspect.animation.period
  { aspect with button := some ⟨face.markDirty, period, 0⟩ }

def changeFace (aspect : Aspect) (change : Face → Face) : Aspect :=
  { aspect with button := aspect.button.map fun button =>
      { button with face := change button.face } }

def answer (aspect : Aspect) (context : String) : HostEvent → Aspect
  | .willAppear _ settings => aspect.restart context settings
  | .didReceiveSettings _ settings => aspect.restart context settings
  | .willDisappear _ => { aspect with button := none }
  | .titleParametersDidChange _ size =>
    aspect.changeFace (·.setWidth (aspect.animation.textWidth size))
  | _ => aspect

def published (aspect : Aspect) (result : Sampler × Bool) : Aspect :=
  let told := { aspect with sampler := result.1.unlogged }
  if result.2 then told.changeFace Face.markDirty else told

def pass (aspect : Aspect) : Aspect :=
  match aspect.button with
  | none => aspect
  | some button =>
    let drawn := Scene.draw ⟨button.face, aspect.media⟩ aspect.animation.target Scene.undisturbed
      button.tick
    { aspect with
      button := some ⟨drawn.scene.face, button.period, drawn.next⟩
      sent := aspect.sent ++ drawn.sent }

def turn (aspect : Aspect) (context : String) : Turn → Aspect
  | .event event => aspect.answer context event
  | .message raw =>
    match HostEvent.read raw with
    | .ok event => aspect.answer context event
    | .error _ => aspect
  | .shutdown => { aspect with sampler := aspect.sampler.detach.unlogged, button := none }
  | .tick _ => aspect.pass
  | .source edit => { aspect with sampler := (aspect.sampler.edit edit).unlogged }
  | .notify token change => aspect.published (aspect.sampler.notify token change)
  | .refresh => aspect.published aspect.sampler.sample

theorem animation_turn (aspect : Aspect) (context : String) (turn : Turn) :
    (aspect.turn context turn).animation = aspect.animation := by
  have answers : ∀ told, (aspect.answer context told).animation = aspect.animation := by
    intro told
    cases told <;> rfl
  have publishes : ∀ result, (aspect.published result).animation = aspect.animation := by
    intro result
    unfold published
    split <;> rfl
  cases turn with
  | event told => exact answers told
  | message raw =>
      simp only [Aspect.turn]
      split
      · exact answers _
      · rfl
  | tick _ =>
      simp only [Aspect.turn, pass]
      split <;> rfl
  | notify token change => exact publishes _
  | refresh => exact publishes _
  | _ => rfl

end Aspect

end Marquee
