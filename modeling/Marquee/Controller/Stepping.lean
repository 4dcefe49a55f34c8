import Marquee.Controller.Events

/-!
Running the controller step by step, without a clock. A loop with a short period is held inside
its last title after every pass that drew; a tick lets it go on to its next pass. A pass that
finds no room on the button draws nothing, and then the loop is not held: it goes on by itself
until there is room. A loop with a long period makes its first pass only. While a loop is held,
the host may call the controller from inside that title.
-/

namespace Marquee

def steppedBelow : Nat := 60000

namespace Loop

def isStepped (loop : Loop) : Bool := loop.live && decide (loop.period < steppedBelow)

def isHeld (loop : Loop) : Bool := loop.isStepped && loop.drew

def isFree (loop : Loop) : Bool := loop.isStepped && !loop.drew

end Loop

inductive Callback where
  | disappear
  | settings (settings : Json)
  | font (size : Nat)
  | refresh
deriving Repr, Inhabited

inductive Action where
  | source (edit : SourceEdit)
  | notify (token : String) (change : MediaChange)
  | appear (context : String) (settings : Json)
  | settings (context : String) (settings : Json) (callbacks : List Callback)
  | disappear (context : String)
  | font (context : String) (size : Nat)
  | message (raw : String)
  | tick (context : String) (callbacks : List Callback) (count : Nat)
  | refresh
  | shutdown
  | drop
deriving Inhabited

namespace Controller

def isDue (controller : Controller) (loop : Loop) : Bool :=
  loop.isFree && ((controller.panel.faces[loop.face]?).map Face.width).getD 0 != 0

/-- Every loop that is not held and finds room makes a pass, after which it is held. -/
def settle (controller : Controller) : Controller :=
  (List.range controller.panel.loops.length).foldl (fun controller number =>
    match controller.panel.loops[number]? with
    | some loop => if controller.isDue loop then controller.pass number else controller
    | none => controller) controller

def holds (controller : Controller) (number : Nat) : Bool :=
  match controller.panel.loops[number]? with
  | some loop => loop.isHeld
  | none => false

def held? (controller : Controller) (context : String) : Option Nat :=
  ((controller.registry.find? context).bind (·.animator.task)).filter controller.holds

def callBack (controller : Controller) (context : String) : Callback → Controller
  | .disappear => (controller.disappear context).settle
  | .settings settings => (controller.changeSettings id context settings).settle
  | .font size => (controller.changeFont context size).settle
  | .refresh => controller.refresh.1.settle

/-- Several such calls. They come on the loop's own thread, so their lines are not in this log. -/
def callBacks (controller : Controller) (context : String) (callbacks : List Callback) :
    Controller :=
  let after := callbacks.foldl (fun inner callback => inner.callBack context callback) controller
  { after with sampler := { after.sampler with log := controller.sampler.log } }

def passes (controller : Controller) (loop : Nat) : Nat → Controller
  | 0 => controller
  | count + 1 =>
    if controller.holds loop then (controller.pass loop).passes loop count else controller

def tick (controller : Controller) (context : String) (callbacks : List Callback) (count : Nat) :
    Controller :=
  match controller.held? context with
  | none => controller
  | some loop =>
    if count = 0 then controller else (controller.callBacks context callbacks).passes loop count

/-- Settings whose button has a held loop: that loop is ended, and the host's calls come before its
title returns. -/
def settingsInside (controller : Controller) (context : String) (callbacks : List Callback) :
    Controller → Controller :=
  if (controller.held? context).isSome then fun inner => inner.callBacks context callbacks else id

def step (controller : Controller) : Action → Controller
  | .source edit => { controller with sampler := controller.sampler.edit edit }
  | .notify token change => controller.notify token change
  | .appear context settings => controller.appear context settings
  | .settings context settings callbacks =>
    controller.changeSettings (controller.settingsInside context callbacks) context settings
  | .disappear context => controller.disappear context
  | .font context size => controller.changeFont context size
  | .message raw => controller.handleMessage raw
  | .tick context callbacks count => controller.tick context callbacks count
  | .refresh => controller.refresh.1
  | .shutdown => controller.shutdown
  | .drop => controller.drop

/-- One step, and what the loops do after it by themselves. Once the controller is gone, only its
source changes. -/
def act (controller : Controller) (action : Action) : Controller :=
  if controller.sampler.alive then
    (controller.step action).settle
  else
    match action with
    | .source _ => controller.step action
    | _ => controller

def run (controller : Controller) (actions : List Action) : Controller :=
  actions.foldl act controller

end Controller

end Marquee
