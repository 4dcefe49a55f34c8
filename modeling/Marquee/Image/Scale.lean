import Marquee.Image.Picture

/-!
Scaling a picture. Along one direction every new sample is a weighted mean of the old samples
around its place; the weights fall off linearly to zero over one old sample, or over one new
sample where the picture is made smaller. The picture is scaled down its columns first and then
along its rows, in single precision, and the values in between are not rounded.
-/

namespace Marquee.Image

/-- The weights of the old samples that a new one is made of, from the sample at `first` on. -/
structure Window where
  first : Nat
  weights : Array Float32

def triangle (x : Float32) : Float32 := if x.abs < 1 then 1 - x.abs else 0

def Window.at (old new place : Nat) : Window :=
  let ratio := old.toFloat32 / new.toFloat32
  let reach := if ratio < 1 then 1 else ratio
  let centre := (place.toFloat32 + 0.5) * ratio
  let first := min (centre - reach).floor.toUInt64.toNat (old - 1)
  let stop := min (max (centre + reach).ceil.toUInt64.toNat (first + 1)) old
  let weights := (List.range (stop - first)).map fun index =>
    triangle (((first + index).toFloat32 - (centre - 0.5)) / reach)
  let sum := weights.foldl (· + ·) 0
  ⟨first, (weights.map (· / sum)).toArray⟩

def Window.mean (window : Window) (sample : Nat → Float32) : Float32 :=
  (List.range window.weights.size).foldl
    (fun sum index => sum + sample (window.first + index) * window.weights.getD index 0) 0

/-- A whole number from a mean: held within the range of a sample, and rounded half away from zero.
-/
def settle (maximum : Nat) (value : Float32) : Nat :=
  let limit := maximum.toFloat32
  let held := if value < 0 then 0 else if limit < value then limit else value
  held.round.toUInt64.toNat

namespace Picture

def windows (old new : Nat) : Array Window := ((List.range new).map (Window.at old new)).toArray

def scaleColumns (picture : Picture) (height : Nat) : Array Float32 :=
  let channels := picture.kind.channels
  let line := picture.width * channels
  let windows := windows picture.height height
  Array.ofFn fun index : Fin (line * height) =>
    let window := windows.getD (index / line) ⟨0, #[]⟩
    window.mean fun row => (picture.samples.getD (row * line + index % line) 0).toFloat32

def scaleRows (picture : Picture) (columns : Array Float32) (width height : Nat) : Array Nat :=
  let channels := picture.kind.channels
  let windows := windows picture.width width
  Array.ofFn fun index : Fin (width * channels * height) =>
    let row := index / (width * channels)
    let place := index % (width * channels)
    let window := windows.getD (place / channels) ⟨0, #[]⟩
    settle picture.maximum
      (window.mean fun column =>
        columns.getD ((row * picture.width + column) * channels + place % channels) 0)

/-- The picture in another size. Nothing is done where it has that size already, and a picture
without pixels becomes all zeros. -/
def scale (picture : Picture) (width height : Nat) : Picture :=
  if picture.width = width ∧ picture.height = height then picture
  else if picture.width = 0 ∨ picture.height = 0 then
    { picture with
      width := width
      height := height
      samples := Array.replicate (width * height * picture.kind.channels) 0 }
  else
    { picture with
      width := width
      height := height
      samples := picture.scaleRows (picture.scaleColumns height) width height }

theorem scale_self (picture : Picture) : picture.scale picture.width picture.height = picture := by
  simp [scale]

theorem width_scale (picture : Picture) (width height : Nat) :
    (picture.scale width height).width = width := by
  unfold scale
  split
  · rename_i same
    exact same.1
  · split <;> rfl

theorem height_scale (picture : Picture) (width height : Nat) :
    (picture.scale width height).height = height := by
  unfold scale
  split
  · rename_i same
    exact same.2
  · split <;> rfl

end Picture

end Marquee.Image
