import Marquee.Proofs.Deck.Map
import Marquee.Proofs.Message.Inbound
import Marquee.Proofs.Settings.Numbers

/-!
The controller keeps to the map: after every run, the contexts, the widths and the periods are
those of the map to which the same turns were done, and so there are as many loops as the map has
buttons. A text counts as the event that its members announce.
-/

namespace Marquee

namespace Controller

variable {controller : Controller} {context : String}

end Controller

namespace Deck

structure Tracks (deck : Deck) (config : AnimationConfig) (controller : Controller) (count : Nat) :
    Prop where
  sound : controller.Sound
  config : controller.animation = config
  slots : ∀ context, deck.lookup context = (controller.aspect context).slot
  regular : ∀ context, (controller.aspect context).Regular count

namespace Tracks

variable {deck : Deck} {config : AnimationConfig} {controller : Controller} {count : Nat}
  (tracks : deck.Tracks config controller count)
include tracks

theorem turn (turn : Turn) : (deck.turn config turn).Tracks config (controller.turn turn)
    (count + 1) := by
  have animation : ∀ context, (controller.aspect context).animation = config :=
    fun _ => tracks.config
  refine ⟨tracks.sound.turn turn, (tracks.sound.animation_turn turn).trans tracks.config, ?_, ?_⟩
  · intro context
    rw [tracks.sound.aspect_turn context turn]
    split
    · next concerned =>
        rw [← animation context]
        exact Aspect.slot_turn (tracks.slots context) turn concerned
    · next foreign => exact (lookup_turn_other turn foreign).trans (tracks.slots context)
  · intro context
    rw [tracks.sound.aspect_turn context turn]
    split
    · exact (tracks.regular context).turn context turn
    · exact (tracks.regular context).next

theorem turns (turns : List Turn) :
    (turns.foldl (Deck.turn config) deck).Tracks config (controller.turns turns)
      (count + turns.length) := by
  induction turns generalizing deck controller count with
  | nil => exact tracks
  | cons turn rest ih =>
      have later := ih (tracks.turn turn)
      rw [Nat.add_assoc, Nat.add_comm 1] at later
      exact later

theorem lookup_absent {context : String} (absent : controller.registry.find? context = none) :
    deck.lookup context = none := by
  rw [tracks.slots context]
  simp only [Aspect.slot, Controller.aspect, Controller.buttonAt_absent absent, Option.map_none]

/-- What the map holds of a button that is on the deck. -/
theorem lookup_found {context : String} {entry : Entry}
    (found : controller.registry.find? context = some entry) :
    ∃ number loop face, controller.Staff context entry number loop face ∧
      deck.lookup context = some ⟨face.width, loop.period⟩ ∧ 0 < loop.period := by
  obtain ⟨number, loop, face, staff⟩ := tracks.sound.staffed found
  refine ⟨number, loop, face, staff, ?_, (tracks.regular context _ staff.button).beats⟩
  rw [tracks.slots context]
  simp only [Aspect.slot, Controller.aspect, staff.button, Option.map_some]

theorem textWidth? (context : String) :
    controller.textWidth? context = (deck.lookup context).map Slot.width := by
  rw [tracks.sound.textWidth?_eq, tracks.slots, Aspect.slot, Option.map_map]
  rfl

theorem mem_contexts (context : String) :
    context ∈ controller.registry.contexts ↔ context ∈ deck.keys := by
  rw [Finmap.mem_keys, ← Finmap.lookup_isSome]
  cases found : controller.registry.find? context with
  | none =>
      rw [tracks.lookup_absent found]
      simpa using Registry.find?_eq_none_iff.mp found
  | some entry =>
      obtain ⟨_, _, _, _, held, _⟩ := tracks.lookup_found found
      have listed : context ∈ controller.registry.contexts :=
        List.mem_map.mpr ⟨_, Registry.mem_of_find? found, rfl⟩
      simpa [held] using listed

theorem contexts : controller.contexts = deck.keys.sort := by
  have ordered : controller.contexts.Pairwise (· ≤ ·) := by
    have transitive : ∀ first second third : String, decide (first ≤ second) = true →
        decide (second ≤ third) = true → decide (first ≤ third) = true := by
      simp only [decide_eq_true_eq]
      exact fun _ _ _ => le_trans
    have total : ∀ left right : String,
        (decide (left ≤ right) || decide (right ≤ left)) = true := by
      simp only [Bool.or_eq_true, decide_eq_true_eq]
      exact le_total
    exact (List.pairwise_mergeSort transitive total _).imp of_decide_eq_true
  have same : controller.contexts.Perm deck.keys.sort := by
    refine (List.mergeSort_perm _ _).trans ?_
    refine (List.perm_ext_iff_of_nodup tracks.sound.distinct (Finset.sort_nodup _ _)).mpr ?_
    intro context
    rw [Finset.mem_sort]
    exact tracks.mem_contexts context
  exact same.eq_of_pairwise' ordered (Finset.pairwise_sort _ _)

theorem running : controller.registry.running = deck.keys.card := by
  have counted := (Traffic.Sound.settled tracks.sound rfl).counted
  have length : controller.contexts.length = controller.registry.contexts.length :=
    (List.mergeSort_perm _ _).length_eq
  rw [counted, ← length, tracks.contexts, Finset.length_sort]

end Tracks

end Deck

end Marquee
