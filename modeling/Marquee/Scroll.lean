/-!
The sliding title. A title is padded with one window of blanks on either side, and a window of
`width` characters walks over the padded text one position a frame, so that the text slides in from
blank and out to blank. A position past the last full window starts over.
-/

namespace Marquee.Scroll

structure Frame where
  visible : String
  next : Nat
deriving DecidableEq, Repr

def Frame.blank : Frame := ⟨"", 0⟩

def padded (title : List Char) (width : Nat) : List Char :=
  List.replicate width ' ' ++ (title ++ List.replicate width ' ')

def lastStart (title : List Char) (width : Nat) : Nat := title.length + width

/-- The position that is really shown: past the last full window the walk starts over. -/
def start (title : List Char) (width tick : Nat) : Nat :=
  if lastStart title width < tick then 0 else tick

def window (title : List Char) (width position : Nat) : List Char :=
  ((padded title width).drop position).take width

/-- The frame at `tick`. Characters are Unicode scalar values, so none is ever cut in half. -/
def advance (title : String) (width tick : Nat) : Frame :=
  if title.isEmpty || width == 0 then
    Frame.blank
  else
    let position := start title.toList width tick
    ⟨String.ofList (window title.toList width position), position + 1⟩

def frames (title : String) (width : Nat) : Nat → Nat → List Frame
  | 0, _ => []
  | count + 1, tick =>
    let frame := advance title width tick
    frame :: frames title width count frame.next

theorem length_padded (title : List Char) (width : Nat) :
    (padded title width).length = lastStart title width + width := by
  simp only [padded, lastStart, List.length_append, List.length_replicate]
  omega

theorem start_le_lastStart (title : List Char) (width tick : Nat) :
    start title width tick ≤ lastStart title width := by
  unfold start
  split <;> omega

theorem length_window (title : List Char) (width tick : Nat) :
    (window title width (start title width tick)).length = width := by
  have bound := start_le_lastStart title width tick
  simp only [window, List.length_take, List.length_drop, length_padded]
  omega

theorem length_frames (title : String) (width count tick : Nat) :
    (frames title width count tick).length = count := by
  induction count generalizing tick with
  | zero => rfl
  | succ count ih => simp [frames, ih]

end Marquee.Scroll
