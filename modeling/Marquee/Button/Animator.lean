/-!
A button's animator: it owns at most one loop at a time. Loops are known by number, and an
operation that takes a loop away from the animator hands it back, so that none is lost.
-/

namespace Marquee

inductive AnimatorPhase where
  | idle
  | running
  | stopped
deriving DecidableEq, Repr, Inhabited

def AnimatorPhase.name : AnimatorPhase → String
  | .idle => "Idle"
  | .running => "Running"
  | .stopped => "Stopped"

structure Animator where
  /-- The number of the loop that is installed. -/
  task : Option Nat := none
  stopped : Bool := false
deriving DecidableEq, Repr, Inhabited

namespace Animator

def phase (animator : Animator) : AnimatorPhase :=
  match animator.task with
  | some _ => .running
  | none => if animator.stopped then .stopped else .idle

def take (animator : Animator) : Animator × Option Nat :=
  (⟨none, animator.stopped⟩, animator.task)

def install (animator : Animator) (task : Nat) : Animator × Option Nat :=
  (⟨some task, false⟩, animator.task)

def stop (animator : Animator) : Animator × Option Nat := (⟨none, true⟩, animator.task)

theorem phase_eq_running_iff (animator : Animator) :
    animator.phase = .running ↔ animator.task.isSome = true := by
  unfold phase
  cases animator.task with
  | none => cases animator.stopped <;> simp
  | some task => simp

theorem phase_install (animator : Animator) (task : Nat) :
    (animator.install task).1.phase = .running := rfl

theorem phase_stop (animator : Animator) : animator.stop.1.phase = .stopped := rfl

end Animator

end Marquee
