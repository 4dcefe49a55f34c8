import Marquee.Controller.Events

/-!
Calls of the host that run at the same time. A call is a sequence of sections, each of which is one
visit to the registry, one end of a loop or one start of a loop; between two sections of a call any
other call, loop or change of the media may come. A call by itself does what the controller does
when it handles the event at once.
-/

namespace Marquee

structure Job where
  context : String
  face : Nat
  period : Nat
deriving DecidableEq, Repr

inductive Call where
  | appear (context : String) (settings : Json)
  | settings (context : String) (settings : Json)
  /-- The former loop was taken from the button and is to be ended. -/
  | ending (job : Job) (former : Option Nat)
  /-- The new loop is to be started. -/
  | starting (job : Job)
  /-- The new loop runs and is to be installed. -/
  | installing (job : Job) (loop : Nat)
  /-- The loop that the installation displaced or rejected is to be ended. -/
  | closing (job : Job) (installed : Bool) (rejected : Option Nat)
  | disappear (context : String)
  /-- The loop of a button that was taken out is to be ended. -/
  | leaving (context : String) (loop : Option Nat)
  | shutdown
  /-- The registrations are revoked, and all buttons are to be taken out. -/
  | draining
  /-- The loops of the buttons that were taken out are to be ended. -/
  | emptying (loops : List Nat)
  | returned
deriving Repr, Inhabited

namespace Call

/-- The loops that a call has in hand, which nobody else may end. -/
def loops : Call → List Nat
  | ending _ former => former.toList
  | installing _ loop => [loop]
  | closing _ _ rejected => rejected.toList
  | leaving _ loop => loop.toList
  | emptying loops => loops
  | _ => []

def job? : Call → Option Job
  | ending job _ => some job
  | starting job => some job
  | installing job _ => some job
  | closing job _ _ => some job
  | _ => none

def pending? : Call → Option Job
  | ending job _ => some job
  | starting job => some job
  | installing job _ => some job
  | _ => none

def isReturned : Call → Bool
  | returned => true
  | _ => false

end Call

namespace Controller

def enter (controller : Controller) (context : String) (settings : Json) : Controller × Call :=
  let period := controller.periodFor settings
  let (controller, face, former) := controller.takeOver context
  (controller, .ending ⟨context, face, period⟩ former)

def advance (controller : Controller) : Call → Controller × Call
  | .appear context settings =>
    (controller.note .debug "button appeared" [("context", .text context)]).enter context settings
  | .settings context settings =>
    (controller.note .debug "button settings received" [("context", .text context)]).enter context
      settings
  | .ending job former => (controller.endLoop? former, .starting job)
  | .starting job =>
    let (controller, loop) := controller.spawn job.context job.face job.period
    (controller, .installing job loop)
  | .installing job loop =>
    let (controller, installed, rejected) := controller.install job.context job.face loop
    (controller, .closing job installed rejected)
  | .closing job installed rejected =>
    ((controller.endLoop? rejected).noteStarted job.context job.period installed, .returned)
  | .disappear context =>
    match controller.remove context with
    | none => (controller, .returned)
    | some (controller, loop) => (controller, .leaving context loop)
  | .leaving context loop =>
    ((controller.endLoop? loop).note .debug "button disappeared" [("context", .text context)],
      .returned)
  | .shutdown => ({ controller with sampler := controller.sampler.detach }, .draining)
  | .draining =>
    let (controller, loops) := controller.drain
    (controller, .emptying loops)
  | .emptying [] => (controller, .returned)
  | .emptying (loop :: rest) => (controller.endLoop? (some loop), .emptying rest)
  | .returned => (controller, .returned)

def deliver (controller : Controller) (change : MediaChange) (between : List SourceEdit) :
    Controller :=
  let sampler := controller.sampler.note .debug "media change notification"
    [("change", .text change.name)]
  let synced := if change = .sessions then sampler.sync else sampler
  controller.published (between.foldl Sampler.edit synced).sample

end Controller

structure Traffic where
  controller : Controller
  calls : List Call := []

namespace Traffic

inductive Move where
  /-- An event of the host; its call begins, or it is handled at once where it is one section. -/
  | event (event : HostEvent)
  | message (raw : String)
  | shutdown
  /-- A call goes on by one section. -/
  | advance (call : Nat)
  /-- A loop makes a pass. -/
  | tick (loop : Nat)
  | source (edit : SourceEdit)
  | deliver (change : MediaChange) (between : List SourceEdit)
  | refresh
deriving Inhabited

def start (config : Config) (source : Source) (decoder : Artwork.Decoder) : Traffic :=
  ⟨Controller.start config source decoder, []⟩

def begin (traffic : Traffic) (call : Call) : Traffic :=
  { traffic with calls := traffic.calls ++ [call] }

def event (traffic : Traffic) : HostEvent → Traffic
  | .willAppear context settings => traffic.begin (.appear context settings)
  | .didReceiveSettings context settings => traffic.begin (.settings context settings)
  | .willDisappear context => traffic.begin (.disappear context)
  | event => { traffic with controller := traffic.controller.handleEvent event }

def advance (traffic : Traffic) (number : Nat) : Traffic :=
  match traffic.calls[number]? with
  | none => traffic
  | some call =>
    let (controller, call) := traffic.controller.advance call
    ⟨controller, traffic.calls.set number call⟩

def step (traffic : Traffic) : Move → Traffic
  | .event event => traffic.event event
  | .message raw =>
    match HostEvent.read raw with
    | .ok event => traffic.event event
    | .error _ => { traffic with controller := traffic.controller.handleMessage raw }
  | .shutdown => traffic.begin .shutdown
  | .advance call => traffic.advance call
  | .tick loop => { traffic with controller := traffic.controller.pass loop }
  | .source edit =>
    { traffic with
      controller :=
        { traffic.controller with sampler := traffic.controller.sampler.edit edit } }
  | .deliver change between =>
    { traffic with controller := traffic.controller.deliver change between }
  | .refresh => { traffic with controller := traffic.controller.refresh.1 }

def run (traffic : Traffic) (moves : List Move) : Traffic := moves.foldl step traffic

def isQuiet (traffic : Traffic) : Bool := traffic.calls.all Call.isReturned

end Traffic

namespace Controller

theorem loops_takeOver (controller : Controller) (context : String) :
    (controller.takeOver context).1.panel.loops = controller.panel.loops := by
  unfold takeOver
  split <;> rfl

theorem length_loops_endLoop? (controller : Controller) (loop : Option Nat) :
    (controller.endLoop? loop).panel.loops.length = controller.panel.loops.length := by
  cases loop with
  | none => rfl
  | some number => simp [endLoop?, Panel.endLoop?, Panel.endLoop]

theorem endFormer_id (controller : Controller) (former : Option Nat) :
    controller.endFormer id former = controller.endLoop? former := by
  cases former <;> rfl

end Controller

namespace Traffic

theorem run_entered (controller : Controller) (context : String) (settings : Json) :
    let entered := controller.enter context settings
    (⟨entered.1, [entered.2]⟩ : Traffic).run
        [.advance 0, .advance 0, .tick controller.panel.loops.length, .advance 0, .advance 0] =
      ⟨controller.configure id context settings, [.returned]⟩ := by
  intro entered
  have number : controller.panel.loops.length =
      ((controller.takeOver context).1.endLoop?
        (controller.takeOver context).2.2).panel.loops.length := by
    rw [Controller.length_loops_endLoop?, Controller.loops_takeOver]
  rw [number]
  simp only [Controller.configure, Controller.endFormer_id]
  rfl

/-- A button that comes up while no other call is under way: its call, with the first pass of the
new loop as soon as it is started, does what the controller does at once. -/
theorem run_appear (controller : Controller) (context : String) (settings : Json) :
    (⟨controller, []⟩ : Traffic).run
        [.event (.willAppear context settings), .advance 0, .advance 0, .advance 0,
          .tick controller.panel.loops.length, .advance 0, .advance 0] =
      ⟨controller.handleEvent (.willAppear context settings), [.returned]⟩ :=
  run_entered (controller.note .debug "button appeared" [("context", .text context)]) context
    settings

theorem run_settings (controller : Controller) (context : String) (settings : Json) :
    (⟨controller, []⟩ : Traffic).run
        [.event (.didReceiveSettings context settings), .advance 0, .advance 0, .advance 0,
          .tick controller.panel.loops.length, .advance 0, .advance 0] =
      ⟨controller.handleEvent (.didReceiveSettings context settings), [.returned]⟩ :=
  run_entered (controller.note .debug "button settings received" [("context", .text context)])
    context settings

theorem run_disappear (controller : Controller) (context : String) :
    (⟨controller, []⟩ : Traffic).run
        [.event (.willDisappear context), .advance 0, .advance 0] =
      ⟨controller.handleEvent (.willDisappear context), [.returned]⟩ := by
  change (⟨(controller.advance (.disappear context)).1,
    [(controller.advance (.disappear context)).2]⟩ : Traffic).advance 0 = _
  simp only [Controller.handleEvent, Controller.disappear, Controller.advance]
  cases controller.remove context <;> rfl

theorem run_emptying (controller : Controller) (loops : List Nat) :
    (⟨controller, [.emptying loops]⟩ : Traffic).run
        (List.replicate (loops.length + 1) (.advance 0)) =
      ⟨{ controller with panel := controller.panel.endLoops loops }, [.returned]⟩ := by
  induction loops generalizing controller with
  | nil => rfl
  | cons loop rest ih => exact ih (controller.endLoop? (some loop))

theorem run_shutdown (controller : Controller) :
    (⟨controller, []⟩ : Traffic).run
        (.shutdown :: List.replicate (controller.registry.tasks.length + 3) (.advance 0)) =
      ⟨controller.shutdown, [.returned]⟩ :=
  run_emptying { controller with sampler := controller.sampler.detach, registry := {} }
    controller.registry.tasks

end Traffic

theorem Controller.notify_eq_deliver (controller : Controller) (token : String)
    (change : MediaChange) (alive : controller.sampler.alive = true)
    (listens : controller.sampler.source.listens token = true) :
    controller.notify token change = controller.deliver change [] := by
  simp only [Controller.notify, Sampler.notify, listens, if_true, Sampler.deliver, alive,
    Sampler.handleChange, Controller.deliver, List.foldl_nil]
  split <;> rfl

end Marquee
