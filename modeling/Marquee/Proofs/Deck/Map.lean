import Mathlib.Data.Finmap
import Mathlib.Data.Finset.Sort
import Mathlib.Data.String.Basic
import Marquee.Proofs.Deck.Projection

/-!
The controller as a map. What can be asked of the buttons on the deck, and the periods of their
loops, are those of a plain map from contexts to a width and a period each, to which every turn does
something simple.
-/

namespace Marquee

structure Slot where
  width : Nat
  period : Nat
deriving DecidableEq, Repr

abbrev Deck := Finmap fun _ : String => Slot

def HostEvent.configures? : HostEvent → Option (String × Json)
  | willAppear context settings => some (context, settings)
  | didReceiveSettings context settings => some (context, settings)
  | _ => none

namespace Turn

def configures? : Turn → Option (String × Json)
  | .event told => told.configures?
  | .message raw =>
    match HostEvent.read raw with
    | .ok told => told.configures?
    | .error _ => none
  | _ => none

end Turn

namespace Deck

def configure (config : AnimationConfig) (deck : Deck) (context : String) (settings : Json) :
    Deck :=
  let width := match deck.lookup context with
    | some slot => slot.width
    | none => config.initialWidth
  let asked := (ButtonSettings.ofJson settings).refreshTime
  deck.insert context ⟨width, if asked = 0 then max 16 (min 60000 config.refresh) else asked⟩

def resize (config : AnimationConfig) (deck : Deck) (context : String) (size : Nat) : Deck :=
  match deck.lookup context with
  | some slot => deck.insert context ⟨config.textWidth size, slot.period⟩
  | none => deck

def answer (config : AnimationConfig) (deck : Deck) : HostEvent → Deck
  | .willAppear context settings => deck.configure config context settings
  | .didReceiveSettings context settings => deck.configure config context settings
  | .willDisappear context => deck.erase context
  | .titleParametersDidChange context size => deck.resize config context size
  | _ => deck

def turn (config : AnimationConfig) (deck : Deck) : Turn → Deck
  | .event told => deck.answer config told
  | .message raw =>
    match HostEvent.read raw with
    | .ok told => deck.answer config told
    | .error _ => deck
  | .shutdown => ∅
  | _ => deck

def turns (config : AnimationConfig) (turns : List Turn) : Deck := turns.foldl (turn config) ∅

variable {config : AnimationConfig} {deck : Deck} {context : String}

theorem lookup_configure (config : AnimationConfig) (deck : Deck) (context : String)
    (settings : Json) :
    (deck.configure config context settings).lookup context =
      some ⟨((deck.lookup context).map Slot.width).getD config.initialWidth,
        (ButtonSettings.ofJson settings).period config.period⟩ := by
  rw [configure, Finmap.lookup_insert]
  cases deck.lookup context <;> rfl

theorem lookup_resize (config : AnimationConfig) (deck : Deck) (context : String) (size : Nat) :
    (deck.resize config context size).lookup context =
      (deck.lookup context).map fun slot => ⟨config.textWidth size, slot.period⟩ := by
  unfold resize
  cases found : deck.lookup context with
  | none => exact found
  | some slot => exact Finmap.lookup_insert deck

theorem lookup_answer_other {other : String} (differ : context ≠ other) (told : HostEvent)
    (owner : told.owner? = some other) :
    (deck.answer config told).lookup context = deck.lookup context := by
  cases told with
  | willAppear _ settings =>
      cases owner
      exact Finmap.lookup_insert_of_ne deck differ
  | didReceiveSettings _ settings =>
      cases owner
      exact Finmap.lookup_insert_of_ne deck differ
  | willDisappear _ =>
      cases owner
      exact Finmap.lookup_erase_ne differ
  | titleParametersDidChange _ size =>
      cases owner
      simp only [answer, resize]
      split
      · exact Finmap.lookup_insert_of_ne deck differ
      · rfl
  | _ => rfl

/-- A turn for one button leaves what the map holds of the others. -/
theorem lookup_turn_other (turn : Turn) (foreign : ¬ turn.concerns context = true) :
    (deck.turn config turn).lookup context = deck.lookup context := by
  have others : ∀ told : HostEvent, ¬ (told.owner?.all (· == context)) = true →
      (deck.answer config told).lookup context = deck.lookup context := by
    intro told foreign
    cases owner : told.owner? with
    | none =>
        rw [owner] at foreign
        exact absurd rfl foreign
    | some other =>
        have differ : context ≠ other := by
          intro same
          simp [owner, same] at foreign
        exact lookup_answer_other differ told owner
  cases turn with
  | event told => exact others told foreign
  | message raw =>
      simp only [Turn.concerns, Turn.owner?] at foreign
      simp only [Deck.turn]
      cases read : HostEvent.read raw with
      | ok told =>
          rw [read] at foreign
          exact others told foreign
      | error fault => rfl
  | shutdown => exact absurd rfl foreign
  | _ => rfl

end Deck

/-- A button after at most `count` turns: its loop has a period, and while there are numbers for
more generations, no more were raised than there were turns. -/
structure Button.Regular (button : Button) (count : Nat) : Prop where
  beats : 0 < button.period
  flag : count < 2 ^ 64 → button.face.flag.consumed.toNat ≤ button.face.flag.raised.toNat ∧
    button.face.flag.raised.toNat ≤ count

namespace Button.Regular

variable {button : Button} {count : Nat} (regular : button.Regular count)
include regular

theorem next : button.Regular (count + 1) := by
  refine ⟨regular.beats, ?_⟩
  intro bounded
  obtain ⟨behind, counted⟩ := regular.flag (by omega)
  exact ⟨behind, by omega⟩

theorem raise {period tick : Nat} (beats : 0 < period) :
    Button.Regular ⟨button.face.markDirty, period, tick⟩ (count + 1) := by
  refine ⟨beats, ?_⟩
  intro bounded
  obtain ⟨behind, counted⟩ := regular.flag (by omega)
  have raised : button.face.flag.raise.raised.toNat = button.face.flag.raised.toNat + 1 :=
    ChangeFlag.raised_raise (by omega)
  have same : button.face.flag.raise.consumed = button.face.flag.consumed := rfl
  simp only [Face.markDirty, raised, same]
  omega

theorem draw (media : NowPlaying) (target : Target) :
    let drawn := Scene.draw ⟨button.face, media⟩ target Scene.undisturbed button.tick
    Button.Regular ⟨drawn.scene.face, button.period, drawn.next⟩ (count + 1) := by
  intro drawn
  refine ⟨regular.beats, ?_⟩
  intro bounded
  obtain ⟨behind, counted⟩ := regular.flag (by omega)
  rcases Scene.draw_flag ⟨button.face, media⟩ target button.tick [] with same | ⟨cleared, _⟩
  · change drawn.scene.face.flag = button.face.flag at same
    simp only [same]
    exact ⟨behind, by omega⟩
  · change drawn.scene.face.flag = button.face.flag.consume button.face.flag.raised at cleared
    simp only [cleared, ChangeFlag.consumed_consume behind]
    exact ⟨Nat.le_refl _, Nat.le_succ_of_le counted⟩

end Button.Regular

namespace Aspect

variable {aspect : Aspect} {count : Nat}

theorem period_pos (settings : Json) (config : AnimationConfig) :
    0 < (ButtonSettings.ofJson settings).period config.period := by
  unfold ButtonSettings.period AnimationConfig.period clamp
  split <;> omega

def Regular (aspect : Aspect) (count : Nat) : Prop :=
  ∀ button, aspect.button = some button → button.Regular count

theorem Regular.next (regular : aspect.Regular count) : aspect.Regular (count + 1) :=
  fun button known => (regular button known).next

theorem Regular.restart (regular : aspect.Regular count) (context : String) (settings : Json) :
    (aspect.restart context settings).Regular (count + 1) := by
  intro button known
  have beats := period_pos settings aspect.animation
  simp only [Aspect.restart, Option.some.injEq] at known
  rw [← known]
  cases former : aspect.button with
  | some standing => exact (regular standing former).raise beats
  | none =>
      have fresh : Button.Regular ⟨⟨context, aspect.animation.initialWidth, {}⟩, 1, 0⟩ count :=
        ⟨Nat.one_pos, fun _ => ⟨Nat.le_refl _, Nat.zero_le _⟩⟩
      exact fresh.raise beats

theorem Regular.published (regular : aspect.Regular count) (result : Sampler × Bool) :
    (aspect.published result).Regular (count + 1) := by
  intro button known
  unfold Aspect.published at known
  split at known
  · obtain ⟨former, standing, raised⟩ := Option.map_eq_some_iff.mp known
    rw [← raised]
    exact (regular former standing).raise (regular former standing).beats
  · exact (regular button known).next

theorem Regular.pass (regular : aspect.Regular count) : aspect.pass.Regular (count + 1) := by
  intro button known
  unfold Aspect.pass at known
  split at known
  · exact (regular button known).next
  · next former standing =>
      cases known
      exact (regular former standing).draw _ _

theorem Regular.answer (regular : aspect.Regular count) (context : String) (told : HostEvent) :
    (aspect.answer context told).Regular (count + 1) := by
  cases told with
  | willAppear _ settings => exact regular.restart context settings
  | didReceiveSettings _ settings => exact regular.restart context settings
  | willDisappear _ =>
      intro button absent
      cases absent
  | titleParametersDidChange _ size =>
      intro button known
      obtain ⟨former, standing, resized⟩ := Option.map_eq_some_iff.mp known
      rw [← resized]
      exact ⟨(regular former standing).next.beats, (regular former standing).next.flag⟩
  | _ => exact regular.next

theorem Regular.turn (regular : aspect.Regular count) (context : String) (turn : Turn) :
    (aspect.turn context turn).Regular (count + 1) := by
  cases turn with
  | event told => exact regular.answer context told
  | message raw =>
      simp only [Aspect.turn]
      split
      · exact regular.answer context _
      · exact regular.next
  | shutdown =>
      intro button absent
      cases absent
  | tick _ => exact regular.pass
  | source edit => exact regular.next
  | notify token change => exact regular.published _
  | refresh => exact regular.published _

def slot (aspect : Aspect) : Option Slot :=
  aspect.button.map fun button => ⟨button.face.width, button.period⟩

theorem slot_answer {aspect : Aspect} {deck : Deck} {context : String}
    (held : deck.lookup context = aspect.slot) (told : HostEvent)
    (concerned : told.owner?.all (· == context) = true) :
    (deck.answer aspect.animation told).lookup context = (aspect.answer context told).slot := by
  cases told with
  | willAppear owner settings =>
      obtain rfl : owner = context := by simpa [HostEvent.owner?] using concerned
      simp only [Deck.answer, Deck.lookup_configure, held, slot, Aspect.answer, Aspect.restart]
      cases aspect.button <;> rfl
  | didReceiveSettings owner settings =>
      obtain rfl : owner = context := by simpa [HostEvent.owner?] using concerned
      simp only [Deck.answer, Deck.lookup_configure, held, slot, Aspect.answer, Aspect.restart]
      cases aspect.button <;> rfl
  | willDisappear owner =>
      obtain rfl : owner = context := by simpa [HostEvent.owner?] using concerned
      exact Finmap.lookup_erase owner deck
  | titleParametersDidChange owner size =>
      obtain rfl : owner = context := by simpa [HostEvent.owner?] using concerned
      simp only [Deck.answer, Deck.lookup_resize, held, slot, Aspect.answer, Aspect.changeFace]
      cases aspect.button <;> rfl
  | _ => exact held

theorem slot_published (aspect : Aspect) (result : Sampler × Bool) :
    (aspect.published result).slot = aspect.slot := by
  unfold published
  split
  · simp only [slot, changeFace]
    cases aspect.button <;> rfl
  · rfl

/-- A pass draws, and changes neither the width nor the period. -/
theorem slot_pass (aspect : Aspect) : aspect.pass.slot = aspect.slot := by
  unfold pass
  split
  · rfl
  · next button known =>
      simp only [slot, known, Option.map_some, Scene.draw_width]

theorem slot_turn {deck : Deck} {context : String} (held : deck.lookup context = aspect.slot)
    (turn : Turn) (concerned : turn.concerns context = true) :
    (deck.turn aspect.animation turn).lookup context = (aspect.turn context turn).slot := by
  cases turn with
  | event told => exact slot_answer held told concerned
  | message raw =>
      simp only [Turn.concerns, Turn.owner?] at concerned
      simp only [Deck.turn, Aspect.turn]
      cases read : HostEvent.read raw with
      | ok told =>
          rw [read] at concerned
          exact slot_answer held told concerned
      | error fault => exact held
  | shutdown => exact Finmap.lookup_empty context
  | tick _ => exact held.trans aspect.slot_pass.symm
  | source edit => exact held
  | notify token change => exact held.trans (aspect.slot_published _).symm
  | refresh => exact held.trans (aspect.slot_published _).symm

end Aspect

end Marquee
