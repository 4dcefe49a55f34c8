/-!
The face of a button: what its loop reads to draw it. Beside the text width it holds a flag that
says whether title or artwork changed since the button was last drawn. Raising the flag starts a
new generation, and a draw clears only the generation it saw, so a change in the middle of a draw
stays pending for the next one.
-/

namespace Marquee

structure ChangeFlag where
  raised : UInt64 := 0
  consumed : UInt64 := 0
deriving DecidableEq, Repr, Inhabited

namespace ChangeFlag

def raise (flag : ChangeFlag) : ChangeFlag := ⟨flag.raised + 1, flag.consumed⟩

def pendingAt (flag : ChangeFlag) (raised : UInt64) : Option UInt64 :=
  if raised = flag.consumed then none else some raised

def pending (flag : ChangeFlag) : Option UInt64 := flag.pendingAt flag.raised

def isSet (flag : ChangeFlag) : Bool := flag.pending.isSome

/-- The flag after a draw of a generation. An older generation changes nothing. -/
def consume (flag : ChangeFlag) (generation : UInt64) : ChangeFlag :=
  ⟨flag.raised, max flag.consumed generation⟩

theorem isSet_iff (flag : ChangeFlag) : flag.isSet = true ↔ flag.raised ≠ flag.consumed := by
  unfold isSet pending pendingAt
  split <;> simp_all

end ChangeFlag

structure Face where
  context : String
  /-- Characters that fit on the button; zero while the deck software has not told the font size. -/
  width : Nat
  flag : ChangeFlag := {}
deriving DecidableEq, Repr, Inhabited

namespace Face

def markDirty (face : Face) : Face := { face with flag := face.flag.raise }

def setWidth (face : Face) (width : Nat) : Face := { face with width := width }

def isDirty (face : Face) : Bool := face.flag.isSet

end Face

end Marquee
