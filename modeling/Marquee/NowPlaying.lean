/-!
What every button shows right now. Title and image always travel together: readers get both from one
moment, and writers replace both at once.
-/

namespace Marquee

/-- A title and the data URL of its artwork; the image is empty when there is none. -/
structure NowPlaying where
  title : String := ""
  image : String := ""
deriving DecidableEq, Repr, Inhabited

namespace NowPlaying

def silent : NowPlaying := ⟨"", ""⟩

def isEmpty (state : NowPlaying) : Bool := state.title.isEmpty && state.image.isEmpty

def replace (current next : NowPlaying) : NowPlaying × Bool :=
  if current = next then (current, false) else (next, true)

theorem replace_fst (current next : NowPlaying) : (current.replace next).1 = next := by
  unfold replace
  split <;> simp_all

theorem replace_snd (current next : NowPlaying) :
    (current.replace next).2 = true ↔ current ≠ next := by
  unfold replace
  split <;> simp_all

end NowPlaying

end Marquee
