import Marquee.Scroll

/-!
The walk over a padded title in closed form. A window begins at one of `title.length + width + 1`
offsets, the next frame's at the offset after it, and after the last offset the walk is back at the
first one. So a frame depends only on its offset, and the first frames of a cycle follow its last
ones without a jump, since the window is blank at both ends.
-/

namespace Marquee.Scroll

def cycle (title : List Char) (width : Nat) : Nat := lastStart title width + 1

def frameOf (title : String) (width offset : Nat) : Frame :=
  ⟨String.ofList (window title.toList width offset), offset + 1⟩

def frameAt (title : String) (width : Nat) : Nat → Nat → Frame
  | tick, 0 => advance title width tick
  | tick, count + 1 => frameAt title width (advance title width tick).next count

theorem frames_eq_map (title : String) (width count tick : Nat) :
    frames title width count tick = (List.range count).map (frameAt title width tick) := by
  induction count generalizing tick with
  | zero => rfl
  | succ count ih =>
      rw [frames, ih, List.range_succ_eq_map, List.map_cons, List.map_map]
      rfl

theorem advance_untitled (width tick : Nat) : advance "" width tick = Frame.blank := by
  simp [advance]

theorem advance_eq_frameOf {title : String} {width : Nat} (titled : title ≠ "") (room : width ≠ 0)
    (tick : Nat) :
    advance title width tick = frameOf title width (start title.toList width tick) := by
  have filled : title.isEmpty = false := String.isEmpty_eq_false_iff.mpr titled
  simp [advance, frameOf, filled, room]

section Window

variable (title : List Char) (width : Nat)

theorem start_of_le {title : List Char} {width tick : Nat} (within : tick ≤ lastStart title width) :
    start title width tick = tick := if_neg (Nat.not_lt.mpr within)

theorem start_succ {offset : Nat} (within : offset ≤ lastStart title width) :
    start title width (offset + 1) = (offset + 1) % cycle title width := by
  unfold start cycle
  by_cases last : offset = lastStart title width
  · rw [if_pos (by omega), last, Nat.mod_self]
  · rw [if_neg (by omega), Nat.mod_eq_of_lt (by omega)]

/-- A place of the padded title holds a character of the title or a blank. -/
theorem getElem?_padded {place : Nat} (within : place < lastStart title width + width) :
    (padded title width)[place]? =
      if width ≤ place ∧ place < width + title.length then title[place - width]? else some ' ' := by
  unfold padded
  unfold lastStart at within
  by_cases before : place < width
  · rw [List.getElem?_append_left (by simpa using before), if_neg (by omega),
      List.getElem?_replicate_of_lt before]
  · rw [List.getElem?_append_right (by simpa using before), List.length_replicate]
    by_cases inside : place - width < title.length
    · rw [List.getElem?_append_left inside, if_pos ⟨by omega, by omega⟩]
    · rw [List.getElem?_append_right (by omega), if_neg (by omega),
        List.getElem?_replicate_of_lt (by omega)]

variable {title width} {offset : Nat}

theorem getElem?_window {column : Nat} (within : offset ≤ lastStart title width)
    (inside : column < width) :
    (window title width offset)[column]? =
      if width ≤ offset + column ∧ offset + column < width + title.length then
        title[offset + column - width]?
      else
        some ' ' := by
  rw [window, List.getElem?_take_of_lt inside, List.getElem?_drop]
  exact getElem?_padded title width (by omega)

theorem length_windowAt (within : offset ≤ lastStart title width) :
    (window title width offset).length = width := by
  have full := length_window title width offset
  rw [start_of_le within] at full
  exact full

/-- The window is blank at both ends of the padded title. -/
theorem window_blank (within : offset ≤ lastStart title width)
    (edge : offset = 0 ∨ offset = lastStart title width) :
    window title width offset = List.replicate width ' ' := by
  apply List.ext_getElem?
  intro column
  by_cases inside : column < width
  · rw [getElem?_window within inside, List.getElem?_replicate_of_lt inside, if_neg]
    unfold lastStart at edge
    omega
  · rw [List.getElem?_eq_none (by rw [length_windowAt within]; omega),
      List.getElem?_eq_none (by rw [List.length_replicate]; omega)]

theorem window_succ (more : offset < lastStart title width) :
    (window title width (offset + 1)).dropLast = (window title width offset).tail := by
  rw [List.dropLast_eq_take, length_windowAt (by omega)]
  unfold window
  rw [List.take_take, Nat.min_eq_left (Nat.sub_le width 1), ← List.drop_one, List.drop_take,
    List.drop_drop]

/-- Each frame goes on where the one before left off, also from the last offset to the first. -/
theorem window_next (within : offset ≤ lastStart title width) :
    (window title width (start title width (offset + 1))).dropLast =
      (window title width offset).tail := by
  by_cases last : offset = lastStart title width
  · have wraps : start title width (offset + 1) = 0 := if_pos (by omega)
    rw [wraps, window_blank (Nat.zero_le _) (Or.inl rfl), window_blank within (Or.inr last)]
    simp
  · have more : offset < lastStart title width := by omega
    rw [start_of_le more]
    exact window_succ more

end Window

def offsetAt (title : String) (width tick count : Nat) : Nat :=
  (start title.toList width tick + count) % cycle title.toList width

section Cycle

theorem offsetAt_le (title : String) (width tick count : Nat) :
    offsetAt title width tick count ≤ lastStart title.toList width :=
  Nat.lt_succ_iff.mp (Nat.mod_lt _ (Nat.succ_pos _))

theorem offsetAt_add_cycle (title : String) (width tick count : Nat) :
    offsetAt title width tick (count + cycle title.toList width) =
      offsetAt title width tick count := by
  unfold offsetAt
  rw [← Nat.add_assoc, Nat.add_mod_right]

variable {title : String} {width : Nat} (titled : title ≠ "") (room : width ≠ 0)
include titled room

/-- The frame after `count` others, in closed form. -/
theorem frameAt_eq_frameOf (tick count : Nat) :
    frameAt title width tick count = frameOf title width (offsetAt title width tick count) := by
  have bound := start_le_lastStart title.toList width tick
  unfold offsetAt
  induction count generalizing tick with
  | zero =>
      rw [frameAt, advance_eq_frameOf titled room, Nat.add_zero,
        Nat.mod_eq_of_lt (by unfold cycle; omega)]
  | succ count ih =>
      have next : (advance title width tick).next = start title.toList width tick + 1 := by
        rw [advance_eq_frameOf titled room]
        rfl
      rw [frameAt, next, ih _ (start_le_lastStart _ _ _), start_succ _ _ bound, Nat.mod_add_mod,
        Nat.add_assoc, Nat.add_comm 1 count]

theorem frameAt_add_cycle (tick count : Nat) :
    frameAt title width tick (count + cycle title.toList width) =
      frameAt title width tick count := by
  rw [frameAt_eq_frameOf titled room, frameAt_eq_frameOf titled room, offsetAt_add_cycle]

theorem length_frameAt (tick count : Nat) :
    (frameAt title width tick count).visible.length = width := by
  rw [frameAt_eq_frameOf titled room, frameOf, ← String.length_toList, String.toList_ofList]
  exact length_windowAt (offsetAt_le title width tick count)

theorem getElem?_frameAt (tick count : Nat) {column : Nat} (inside : column < width) :
    (frameAt title width tick count).visible.toList[column]? =
      if width ≤ offsetAt title width tick count + column ∧
          offsetAt title width tick count + column < width + title.length then
        title.toList[offsetAt title width tick count + column - width]?
      else
        some ' ' := by
  rw [frameAt_eq_frameOf titled room, frameOf, String.toList_ofList,
    getElem?_window (offsetAt_le title width tick count) inside, String.length_toList]

theorem next_frameAt (tick count : Nat) :
    (frameAt title width tick count).next = offsetAt title width tick count + 1 := by
  rw [frameAt_eq_frameOf titled room]
  rfl

/-- While the title passes the first column, its characters come there one after another. -/
theorem heads_frameAt {tick first : Nat} (atTitle : offsetAt title width tick first = width) :
    (List.range title.length).map
        (fun count => (frameAt title width tick (first + count)).visible.toList.head?) =
      title.toList.map some := by
  apply List.ext_getElem (by simp [String.length_toList])
  intro position inRange inTitle
  simp only [List.length_map, List.length_range, String.length_toList] at inRange inTitle
  have here : offsetAt title width tick (first + position) = width + position := by
    unfold offsetAt at atTitle ⊢
    rw [← Nat.add_assoc, ← Nat.mod_add_mod, atTitle, Nat.mod_eq_of_lt]
    rw [cycle, lastStart, String.length_toList]
    omega
  rw [List.getElem_map, List.getElem_range, List.getElem_map, List.head?_eq_getElem?,
    getElem?_frameAt titled room _ _ (Nat.pos_of_ne_zero room), here, if_pos (by omega),
    Nat.add_zero, Nat.add_sub_cancel_left, List.getElem?_eq_getElem]

end Cycle

end Marquee.Scroll
