/-!
A periodic task: a loop that runs a tick, waits for a period, and runs the next one with what the
last one returned, until it is told to stop. The steps of the loop and of whoever stops it are
separate, so that they can be put in any order. A stop closes the channel that the loop waits on;
the loop ends at its next wait, and a stop from outside returns only then.
-/

namespace Marquee

inductive PeriodicPhase (α : Type) where
  /-- About to begin a tick. -/
  | ready (counter : α)
  /-- In a tick. -/
  | ticking (counter : α)
  /-- Between two ticks, with what the last one returned. -/
  | waiting (counter : α)
  | ended
deriving DecidableEq, Repr

inductive Stopper where
  /-- Someone outside, who waits until the loop has ended. -/
  | outside
  /-- The task's own tick, which cannot wait for itself. -/
  | ownTick
deriving DecidableEq, Repr

structure Periodic (α : Type) where
  phase : PeriodicPhase α
  /-- Whether the channel on which the loop waits is still open. -/
  isOpen : Bool := true
  /-- Whether nobody has stopped the task yet. -/
  joinable : Bool := true
  /-- Whether someone outside waits for the loop to end. -/
  joining : Bool := false
  /-- The counters that the ticks have been given, in order. -/
  seen : List α := []
deriving DecidableEq, Repr

namespace Periodic

variable {α : Type}

def start (counter : α) : Periodic α := { phase := .ready counter }

def beginTick (task : Periodic α) : Periodic α :=
  match task.phase with
  | .ready counter => { task with phase := .ticking counter, seen := task.seen ++ [counter] }
  | _ => task

def endTick (tick : α → α) (task : Periodic α) : Periodic α :=
  match task.phase with
  | .ticking counter => { task with phase := .waiting (tick counter) }
  | _ => task

/-- The wait between two ticks is over: the period has passed, or the channel was closed. -/
def wake (task : Periodic α) : Periodic α :=
  match task.phase with
  | .waiting counter => { task with phase := if task.isOpen then .ready counter else .ended }
  | _ => task

/-- A stop begins. Only the first one from outside has something to wait for. -/
def stop (stopper : Stopper) (task : Periodic α) : Periodic α :=
  { task with
    isOpen := false
    joinable := false
    joining := task.joining || (task.joinable && stopper == .outside) }

def join (task : Periodic α) : Periodic α :=
  match task.phase with
  | .ended => { task with joining := false }
  | _ => task

def turn (tick : α → α) (task : Periodic α) : Periodic α := ((task.beginTick).endTick tick).wake

def turns (tick : α → α) (task : Periodic α) : Nat → Periodic α
  | 0 => task
  | count + 1 => (task.turn tick).turns tick count

def lastTurn (tick : α → α) (task : Periodic α) : Periodic α :=
  ((((task.beginTick).stop .ownTick).stop .ownTick).endTick tick).wake

def endedByItself (tick : α → α) (counter : α) (count : Nat) : Periodic α :=
  ((start counter).turns tick (count - 1)).lastTurn tick

/-- The task after a number of ticks, stopped from outside while it waited. A second stop, or
letting the task go, does the same again. -/
def endedFromOutside (tick : α → α) (counter : α) (count : Nat) : Periodic α :=
  let running := (((start counter).turns tick (count - 1)).beginTick).endTick tick
  ((((running.stop .outside).wake).join).stop .outside).join

end Periodic

end Marquee
