import Mathlib.Data.Nat.Periodic
import Mathlib.Data.UInt
import Mathlib.Order.Interval.Finset.Nat
import Marquee.Proofs.Scrolling.Walk

/-!
The walk over a title in 64-bit words. Every sum, difference, length and slice is checked here, and
none of them ever fails where the padded title has fewer than `2 ^ 64` characters; so the walk is
the one in closed form, from whatever tick it begins.
-/

namespace Marquee.Scroll

namespace Word

def add? (left right : UInt64) : Option UInt64 :=
  if left.toNat + right.toNat < 2 ^ 64 then some (left + right) else none

def sub? (left right : UInt64) : Option UInt64 :=
  if right ≤ left then some (left - right) else none

def length? (text : List Char) : Option UInt64 :=
  if text.length < 2 ^ 64 then some (UInt64.ofNat text.length) else none

def slice? (text : List Char) (first last : UInt64) : Option (List Char) :=
  if first ≤ last ∧ last.toNat ≤ text.length then
    some ((text.drop first.toNat).take (last.toNat - first.toNat))
  else
    none

theorem add?_eq_some (left right : UInt64) (fits : left.toNat + right.toNat < 2 ^ 64) :
    ∃ word, add? left right = some word ∧ word.toNat = left.toNat + right.toNat := by
  refine ⟨left + right, if_pos fits, ?_⟩
  rw [UInt64.toNat_add, Nat.mod_eq_of_lt fits]

theorem sub?_eq_some (left right : UInt64) (within : right.toNat ≤ left.toNat) :
    ∃ word, sub? left right = some word ∧ word.toNat = left.toNat - right.toNat := by
  have below : right ≤ left := UInt64.le_iff_toNat_le.mpr within
  exact ⟨left - right, if_pos below, UInt64.toNat_sub_of_le _ _ below⟩

theorem length?_eq_some (text : List Char) (fits : text.length < 2 ^ 64) :
    ∃ word, length? text = some word ∧ word.toNat = text.length :=
  ⟨UInt64.ofNat text.length, if_pos fits, UInt64.toNat_ofNat_of_lt' fits⟩

/-- A slice of a given width that ends within the text. -/
theorem slice?_eq_some {text : List Char} {length : UInt64} (position width : UInt64)
    (known : length.toNat = text.length) (fits : text.length < 2 ^ 64)
    (within : position.toNat + width.toNat ≤ text.length) :
    ∃ reach, add? position width = some reach ∧
      slice? text position (min reach length) =
        some ((text.drop position.toNat).take width.toNat) := by
  obtain ⟨reach, reached, reachIs⟩ := add?_eq_some position width (by omega)
  have inside : min reach length = reach := if_pos (UInt64.le_iff_toNat_le.mpr (by omega))
  have ordered : position ≤ reach := UInt64.le_iff_toNat_le.mpr (by omega)
  refine ⟨reach, reached, ?_⟩
  rw [inside, slice?, if_pos ⟨ordered, by omega⟩, reachIs, Nat.add_sub_cancel_left]

end Word

structure WordFrame where
  visible : String
  next : UInt64
deriving DecidableEq, Repr

/-- The frame at `tick` in words; `none` where a step of it overflows or leaves the text. -/
def advance? (title : String) (width tick : UInt64) : Option WordFrame :=
  if title.isEmpty || width == 0 then
    some ⟨"", 0⟩
  else do
    let text := padded title.toList width.toNat
    let length ← Word.length? text
    let last ← Word.sub? length width
    let position := if last < tick then 0 else tick
    let reach ← Word.add? position width
    let visible ← Word.slice? text position (min reach length)
    let next ← if visible.isEmpty then some 0 else Word.add? position 1
    some ⟨String.ofList visible, next⟩

def frameAt? (title : String) (width : UInt64) : UInt64 → Nat → Option WordFrame
  | tick, 0 => advance? title width tick
  | tick, count + 1 => (advance? title width tick).bind fun frame =>
      frameAt? title width frame.next count

variable {title : String} {width : UInt64}

theorem start_eq (title : String) (width tick : Nat) :
    start title.toList width tick = if tick ≤ title.length + width then tick else 0 := by
  unfold start lastStart
  rw [String.length_toList]
  by_cases past : title.length + width < tick
  · rw [if_pos past, if_neg (Nat.not_le.mpr past)]
  · rw [if_neg past, if_pos (Nat.not_lt.mp past)]

/-- The place of the window in words is the one without. -/
theorem toNat_start {last : UInt64} (tick : UInt64)
    (known : last.toNat = lastStart title.toList width.toNat) :
    (if last < tick then (0 : UInt64) else tick).toNat =
      start title.toList width.toNat tick.toNat := by
  unfold start
  rw [← known]
  by_cases past : last < tick
  · rw [if_pos past, if_pos (UInt64.lt_iff_toNat_lt.mp past)]
    rfl
  · rw [if_neg past, if_neg fun beyond => past (UInt64.lt_iff_toNat_lt.mpr beyond)]

theorem advance?_eq_advance (titled : title ≠ "") (room : width ≠ 0)
    (fits : title.length + 2 * width.toNat < 2 ^ 64) (tick : UInt64) :
    let frame := advance title width.toNat tick.toNat
    ∃ word, advance? title width tick = some ⟨frame.visible, word⟩ ∧ word.toNat = frame.next := by
  have filled : title.isEmpty = false := String.isEmpty_eq_false_iff.mpr titled
  have roomy : width.toNat ≠ 0 := fun zero => room (UInt64.toNat_inj.mp zero)
  have long :
      (padded title.toList width.toNat).length = title.length + width.toNat + width.toNat := by
    rw [length_padded, lastStart, String.length_toList]
  obtain ⟨length, lengthKnown, lengthIs⟩ :=
    Word.length?_eq_some (padded title.toList width.toNat) (by omega)
  obtain ⟨last, lastKnown, lastIs⟩ := Word.sub?_eq_some length width (by omega)
  have lastNat : last.toNat = lastStart title.toList width.toNat := by
    rw [lastIs, lengthIs, long, lastStart, String.length_toList, Nat.add_sub_cancel]
  have placed := toNat_start tick lastNat
  have bound := start_le_lastStart title.toList width.toNat tick.toNat
  rw [← lastNat, ← placed] at bound
  obtain ⟨reach, reachKnown, sliced⟩ := Word.slice?_eq_some (if last < tick then 0 else tick) width
    lengthIs (by omega) (by omega)
  rw [placed] at sliced
  have one : (1 : UInt64).toNat = 1 := rfl
  obtain ⟨next, nextKnown, nextIs⟩ := Word.add?_eq_some (if last < tick then 0 else tick) 1
    (by omega)
  refine ⟨next, ?_, ?_⟩
  · have nonempty : (window title.toList width.toNat
        (start title.toList width.toNat tick.toNat)).isEmpty = false := by
      rw [List.isEmpty_eq_false_iff, ← List.length_pos_iff, length_window]
      exact Nat.pos_of_ne_zero roomy
    unfold window at nonempty
    simp only [advance?, filled, Bool.false_or, beq_iff_eq, room, if_false, lengthKnown, lastKnown,
      reachKnown, sliced, nonempty, nextKnown, Option.bind_eq_bind, Option.bind_some,
      Bool.false_eq_true, advance_eq_frameOf titled roomy, frameOf, window]
  · rw [nextIs, placed, advance_eq_frameOf titled roomy]
    rfl

/-- The walk in words goes on for ever, and it is the walk without words. -/
theorem frameAt?_eq_frameAt (titled : title ≠ "") (room : width ≠ 0)
    (fits : title.length + 2 * width.toNat < 2 ^ 64) (tick : UInt64) (count : Nat) :
    let frame := frameAt title width.toNat tick.toNat count
    ∃ word, frameAt? title width tick count = some ⟨frame.visible, word⟩ ∧
      word.toNat = frame.next := by
  induction count generalizing tick with
  | zero => exact advance?_eq_advance titled room fits tick
  | succ count ih =>
      obtain ⟨word, known, same⟩ := advance?_eq_advance titled room fits tick
      simp only [frameAt?, known, Option.bind_some, frameAt, ← same]
      exact ih word

/-- Any `cycle` frames in a row pass every offset once, from wherever the walk begins. -/
theorem card_offsets (first begins cycle : Nat) (holds : Nat → Prop) [DecidablePred holds] :
    {count ∈ Finset.Ico first (first + cycle) | holds ((begins + count) % cycle)}.card =
      {offset ∈ Finset.range cycle | holds offset}.card := by
  have periodic : Function.Periodic (fun count => holds ((begins + count) % cycle)) cycle := by
    intro count
    simp only [← Nat.add_assoc, Nat.add_mod_right]
  have around : Function.Periodic (fun place => holds (place % cycle)) cycle := by
    intro place
    simp only [Nat.add_mod_right]
  -- Both sides count over one period, the left one from `begins` on.
  rw [Nat.filter_Ico_card_eq_of_periodic first cycle _ periodic]
  calc cycle.count (fun count => holds ((begins + count) % cycle))
      = {place ∈ Finset.Ico begins (begins + cycle) | holds (place % cycle)}.card := by
        rw [Nat.count_eq_card_filter_range]
        refine Finset.card_bij (fun count _ => begins + count) ?_ ?_ ?_
        · intro count member
          simp only [Finset.mem_filter, Finset.mem_range, Finset.mem_Ico] at member ⊢
          exact ⟨⟨by omega, by omega⟩, member.2⟩
        · intro count _ other _ same
          omega
        · intro place member
          simp only [Finset.mem_filter, Finset.mem_range, Finset.mem_Ico] at member ⊢
          exact ⟨place - begins, ⟨by omega, by rw [Nat.add_sub_cancel' member.1.1]; exact member.2⟩,
            by omega⟩
    _ = cycle.count (fun place => holds (place % cycle)) :=
        Nat.filter_Ico_card_eq_of_periodic begins cycle _ around
    _ = {offset ∈ Finset.range cycle | holds offset}.card := by
        rw [Nat.count_eq_card_filter_range]
        congr 1
        apply Finset.filter_congr
        intro offset member
        rw [Nat.mod_eq_of_lt (Finset.mem_range.mp member)]

def Shows (width offset column position : Nat) : Prop := offset + column = width + position

instance (width offset column position : Nat) : Decidable (Shows width offset column position) :=
  inferInstanceAs (Decidable (_ = _))

theorem card_shows_column {length width column position : Nat} (inside : column < width)
    (within : position < length) :
    {offset ∈ Finset.range (length + width + 1) | Shows width offset column position}.card = 1 := by
  rw [Finset.card_eq_one]
  refine ⟨width + position - column, ?_⟩
  ext offset
  rw [Finset.mem_filter, Finset.mem_range, Finset.mem_singleton, Shows]
  omega

theorem card_shows {length position : Nat} (width : Nat) (within : position < length) :
    {offset ∈ Finset.range (length + width + 1) |
      ∃ column < width, Shows width offset column position}.card = width := by
  have places : {offset ∈ Finset.range (length + width + 1) |
      ∃ column < width, Shows width offset column position} =
      Finset.Ico (position + 1) (position + 1 + width) := by
    ext offset
    rw [Finset.mem_filter, Finset.mem_range, Finset.mem_Ico]
    unfold Shows
    constructor
    · rintro ⟨_, column, inside, shown⟩
      omega
    · rintro ⟨lower, upper⟩
      exact ⟨by omega, width + position - offset, by omega, by omega⟩
  rw [places, Nat.card_Ico, Nat.add_sub_cancel_left]

/-- The marquee cycle. In words the walk goes on for ever, and each of its frames is the window at
one of `title.length + width + 1` offsets, which follow one another around; so the frames repeat,
and in every cycle each position of the title passes each column once. -/
theorem walk_cycles (title : String) (width tick : UInt64) (titled : title ≠ "") (room : width ≠ 0)
    (fits : title.length + 2 * width.toNat < 2 ^ 64) :
    let cycle := title.length + width.toNat + 1
    let begins := if tick.toNat ≤ title.length + width.toNat then tick.toNat else 0
    let offset (count : Nat) := (begins + count) % cycle
    let frame := frameAt title width.toNat tick.toNat
    (∀ count, frames title width.toNat count tick.toNat = (List.range count).map frame) ∧
    (∀ count, ∃ next, frameAt? title width tick count = some ⟨(frame count).visible, next⟩ ∧
      next.toNat = (frame count).next) ∧
    (∀ count, (frame count).visible.length = width.toNat ∧ ∀ column < width.toNat,
      (frame count).visible.toList[column]? =
        if width.toNat ≤ offset count + column ∧
            offset count + column < width.toNat + title.length then
          title.toList[offset count + column - width.toNat]?
        else
          some ' ') ∧
    (∀ count, frame (count + cycle) = frame count) ∧
    (∀ count, 1 ≤ (frame count).next ∧ (frame count).next ≤ cycle) ∧
    (∀ first position, position < title.length →
      (∀ column < width.toNat, {count ∈ Finset.Ico first (first + cycle) |
        Shows width.toNat (offset count) column position}.card = 1) ∧
      {count ∈ Finset.Ico first (first + cycle) |
        ∃ column < width.toNat, Shows width.toNat (offset count) column position}.card =
          width.toNat) ∧
    (∀ first, offset first = width.toNat →
      (List.range title.length).map (fun count => (frame (first + count)).visible.toList.head?) =
        title.toList.map some) := by
  have roomy : width.toNat ≠ 0 := fun zero => room (UInt64.toNat_inj.mp zero)
  intro cycle begins offset frame
  have round : Scroll.cycle title.toList width.toNat = cycle := by
    rw [Scroll.cycle, lastStart, String.length_toList]
  have placed (count : Nat) : offsetAt title width.toNat tick.toNat count = offset count := by
    rw [offsetAt, round, start_eq]
  refine ⟨fun count => frames_eq_map title width.toNat count tick.toNat,
    frameAt?_eq_frameAt titled room fits tick, ?_, ?_, ?_, ?_, ?_⟩
  · intro count
    refine ⟨length_frameAt titled roomy tick.toNat count, ?_⟩
    intro column inside
    rw [getElem?_frameAt titled roomy tick.toNat count inside, placed]
  · intro count
    rw [← round]
    exact frameAt_add_cycle titled roomy tick.toNat count
  · intro count
    have within := offsetAt_le title width.toNat tick.toNat count
    rw [next_frameAt titled roomy]
    rw [lastStart, String.length_toList] at within
    omega
  · intro first position inTitle
    refine ⟨?_, ?_⟩
    · intro column inside
      rw [card_offsets first begins cycle fun offset => Shows width.toNat offset column position]
      exact card_shows_column inside inTitle
    · rw [card_offsets first begins cycle
        fun offset => ∃ column < width.toNat, Shows width.toNat offset column position]
      exact card_shows width.toNat inTitle
  · intro first atTitle
    exact heads_frameAt titled roomy ((placed first).trans atTitle)

/-- A title of four characters on a button with room for three, from the greatest tick: eight frames
make up the cycle, and those from the third on begin with the characters of the title. -/
theorem walk_cycles_song :
    let frame := frameAt "Song" 3 18446744073709551615
    "Song" ≠ "" ∧ (3 : UInt64) ≠ 0 ∧ "Song".length + 2 * (3 : UInt64).toNat < 2 ^ 64 ∧
      (∃ next, frameAt? "Song" 3 18446744073709551615 11 = some ⟨(frame 11).visible, next⟩) ∧
      frame 11 = frame 3 ∧
      {count ∈ Finset.Ico 5 13 | ∃ column : Nat, column < 3 ∧ Shows 3 (count % 8) column 2}.card = 3 ∧
      (List.range 4).map (fun count => (frame (3 + count)).visible.toList.head?) =
        [some 'S', some 'o', some 'n', some 'g'] := by
  intro frame
  have titled : "Song" ≠ "" := by decide
  have room : (3 : UInt64) ≠ 0 := by decide
  have fits : "Song".length + 2 * (3 : UInt64).toNat < 2 ^ 64 := by decide
  obtain ⟨_, words, _, again, _, shown, spelled⟩ :=
    walk_cycles "Song" 3 18446744073709551615 titled room fits
  obtain ⟨next, known, _⟩ := words 11
  have counted := (shown 5 2 (by decide)).2
  have length : "Song".length = 4 := by decide
  refine ⟨titled, room, fits, ⟨next, known⟩, again 3, ?_, spelled 3 (by decide)⟩
  simpa [length] using counted

end Marquee.Scroll
