import Marquee.Proofs.Traffic.Places

/-!
One thing after another: a call of the host runs to its end before anything else happens. The loop
that a call starts makes its first pass in a turn of its own, so that other things may come before
it; a controller that handles an event at once lets that pass follow right away. Between two turns
every button has its one live loop, and there is no other loop.
-/

namespace Marquee

inductive Turn where
  /-- A call of the host, but for the first pass of the loop that it starts. -/
  | event (event : HostEvent)
  | message (raw : String)
  | shutdown
  /-- The loop of a button makes a pass. -/
  | tick (context : String)
  | source (edit : SourceEdit)
  | notify (token : String) (change : MediaChange)
  | refresh
deriving Inhabited

namespace Controller

def loopAt (controller : Controller) (context : String) : Option Nat :=
  (controller.registry.find? context).bind (·.animator.task)

def restart (controller : Controller) (context : String) (settings : Json) : Controller :=
  let period := controller.periodFor settings
  let (controller, face, former) := controller.takeOver context
  let (controller, loop) := (controller.endLoop? former).spawn context face period
  let (controller, installed, rejected) := controller.install context face loop
  (controller.endLoop? rejected).noteStarted context period installed

def answer (controller : Controller) : HostEvent → Controller
  | .willAppear context settings =>
    (controller.note .debug "button appeared" [("context", .text context)]).restart context settings
  | .didReceiveSettings context settings =>
    (controller.note .debug "button settings received" [("context", .text context)]).restart context
      settings
  | event => controller.handleEvent event

def tickAt (controller : Controller) (context : String) : Controller :=
  match controller.loopAt context with
  | some loop => controller.pass loop
  | none => controller

def turn (controller : Controller) : Turn → Controller
  | .event event => controller.answer event
  | .message raw =>
    match HostEvent.read raw with
    | .ok event => controller.answer event
    | .error _ => controller.handleMessage raw
  | .shutdown => controller.shutdown
  | .tick context => controller.tickAt context
  | .source edit => { controller with sampler := controller.sampler.edit edit }
  | .notify token change => controller.notify token change
  | .refresh => controller.refresh.1

def turns (controller : Controller) (turns : List Turn) : Controller := turns.foldl turn controller

def Sound (controller : Controller) : Prop := (⟨controller, []⟩ : Traffic).Sound

end Controller

namespace Traffic

theorem run_restart (controller : Controller) (context : String) (settings : Json) :
    let entered := controller.enter context settings
    (⟨entered.1, [entered.2]⟩ : Traffic).run (List.replicate 4 (.advance 0)) =
      ⟨controller.restart context settings, [.returned]⟩ := rfl

theorem Sound.forget {controller : Controller} (sound : Sound ⟨controller, [.returned]⟩) :
    controller.Sound := by
  refine ⟨sound.distinct, sound.owned, sound.entries, nofun, ?_⟩
  intro context entry found idle
  obtain ⟨call, member, awaits⟩ := sound.awaited found idle
  rw [List.mem_singleton.mp member] at awaits
  exact absurd awaits (Call.not_awaits rfl _ _)

end Traffic

namespace Controller

variable {controller : Controller}

theorem Sound.calm (sound : controller.Sound) {after : Controller} (calm : Calm controller after) :
    after.Sound := Traffic.Sound.calm sound calm

theorem calm_tickAt (controller : Controller) (context : String) :
    Calm controller (controller.tickAt context) := by
  unfold tickAt
  split
  · exact calm_pass controller _
  · exact Calm.refl controller

/-- A call that runs to its end is a run of sections with nothing in between. -/
theorem Sound.ends (sound : controller.Sound) {after : Controller} (moves : List Traffic.Move)
    (ran : (⟨controller, []⟩ : Traffic).run moves = ⟨after, [.returned]⟩) : after.Sound := by
  have later := Traffic.Sound.run sound moves
  rw [ran] at later
  exact later.forget

theorem restart_sound {context : String} {settings : Json}
    (entered : Traffic.Sound
      ⟨(controller.enter context settings).1, [(controller.enter context settings).2]⟩) :
    (controller.restart context settings).Sound := by
  have later := entered.run (List.replicate 4 (.advance 0))
  rw [Traffic.run_restart] at later
  exact later.forget

theorem Sound.answer (sound : controller.Sound) (event : HostEvent) :
    (controller.answer event).Sound := by
  cases event with
  | willAppear context settings =>
      exact restart_sound
        (Traffic.Sound.run sound [.event (.willAppear context settings), .advance 0])
  | didReceiveSettings context settings =>
      exact restart_sound
        (Traffic.Sound.run sound [.event (.didReceiveSettings context settings), .advance 0])
  | willDisappear context => exact sound.ends _ (Traffic.run_disappear controller context)
  | titleParametersDidChange context size => exact sound.calm (calm_changeFont controller _ _)
  | unknown name => exact sound.calm (calm_note controller _ _ _)
  | _ => exact sound

theorem Sound.turn (sound : controller.Sound) (turn : Turn) : (controller.turn turn).Sound := by
  cases turn with
  | event event => exact sound.answer event
  | message raw =>
      simp only [Controller.turn]
      cases read : HostEvent.read raw with
      | ok event => exact sound.answer event
      | error fault => exact sound.calm (calm_message controller read)
  | shutdown => exact sound.ends _ (Traffic.run_shutdown controller)
  | tick context => exact sound.calm (calm_tickAt controller context)
  | source edit => exact sound.calm (calm_source controller edit)
  | notify token change => exact sound.calm (calm_published controller _)
  | refresh => exact sound.calm (calm_refresh controller)

theorem Sound.turns (sound : controller.Sound) (turns : List Turn) :
    (controller.turns turns).Sound := by
  induction turns generalizing controller with
  | nil => exact sound
  | cons turn rest ih => exact ih (sound.turn turn)

theorem start_sound (config : Config) (source : Source) (decoder : Artwork.Decoder) :
    (Controller.start config source decoder).Sound :=
  Traffic.sound_start config source decoder

end Controller

end Marquee
