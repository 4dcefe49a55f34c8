import Marquee.Button.Draw

/-!
The panel: the faces of all buttons there have ever been, the loops that draw them, and the calls
that the host has received. A face keeps its number for good, so that two buttons of one context
which came one after the other are told apart by their faces; loops keep their numbers as well,
also after their end.
-/

namespace Marquee

structure Loop where
  face : Nat
  /-- Milliseconds between two passes. -/
  period : Nat
  /-- The scroll offset of the next pass. -/
  tick : Nat := 0
  live : Bool := true
  /-- Whether the latest pass drew anything. -/
  drew : Bool := false
deriving DecidableEq, Repr, Inhabited

structure Panel where
  faces : List Face := []
  loops : List Loop := []
  sent : List HostCall := []
deriving DecidableEq, Repr, Inhabited

namespace Panel

def addFace (panel : Panel) (face : Face) : Panel × Nat :=
  ({ panel with faces := panel.faces ++ [face] }, panel.faces.length)

def changeFace (panel : Panel) (number : Nat) (change : Face → Face) : Panel :=
  { panel with faces := panel.faces.modify number change }

def startLoop (panel : Panel) (face period : Nat) : Panel × Nat :=
  ({ panel with loops := panel.loops ++ [{ face := face, period := period }] }, panel.loops.length)

def endLoop (panel : Panel) (number : Nat) : Panel :=
  { panel with loops := panel.loops.modify number fun loop => { loop with live := false } }

def endLoop? (panel : Panel) : Option Nat → Panel
  | some number => panel.endLoop number
  | none => panel

def endLoops (panel : Panel) (numbers : List Nat) : Panel := numbers.foldl endLoop panel

/-- One pass of a loop: it draws its face and keeps the offset for the next pass. A loop that is
over makes none. -/
def pass (panel : Panel) (media : NowPlaying) (target : Target) (number : Nat) : Panel :=
  match panel.loops[number]? with
  | none => panel
  | some loop =>
    match panel.faces[loop.face]? with
    | none => panel
    | some face =>
      if loop.live then
        let drawn := Scene.draw ⟨face, media⟩ target Scene.undisturbed loop.tick
        let after := { loop with tick := drawn.next, drew := !drawn.sent.isEmpty }
        ⟨panel.faces.set loop.face drawn.scene.face, panel.loops.set number after,
          panel.sent ++ drawn.sent⟩
      else
        panel

def isLive (panel : Panel) (number : Nat) : Bool :=
  match panel.loops[number]? with
  | some loop => loop.live
  | none => false

theorem isLive_startLoop (panel : Panel) (face period : Nat) :
    (panel.startLoop face period).1.isLive (panel.startLoop face period).2 = true := by
  simp [startLoop, isLive]

theorem isLive_endLoop_self (panel : Panel) (number : Nat) :
    (panel.endLoop number).isLive number = false := by
  unfold endLoop isLive
  cases found : panel.loops[number]? <;> simp [found]

theorem isLive_endLoop_other (panel : Panel) {number other : Nat} (differ : other ≠ number) :
    (panel.endLoop number).isLive other = panel.isLive other := by
  unfold endLoop isLive
  simp [differ.symm]

end Panel

end Marquee
