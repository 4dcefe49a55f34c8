import Marquee.Proofs.Deck.Projection

/-!
Buttons do not interfere. What a button can tell after each turn depends only on the turns that are
for this button or for no single one; the turns of other buttons can be left out of a run, or come
in another order.
-/

namespace Marquee

structure Sight where
  sent : List HostCall
  button : Option Button
  media : NowPlaying
deriving DecidableEq, Repr

def Aspect.sight (aspect : Aspect) : Sight := ⟨aspect.sent, aspect.button, aspect.media⟩

namespace Controller

def sight (controller : Controller) (context : String) : Sight :=
  ⟨controller.sentTo context, controller.buttonAt context, controller.media⟩

def sights (controller : Controller) (context : String) : List Turn → List Sight
  | [] => []
  | turn :: rest =>
    let after := controller.turn turn
    if turn.concerns context then after.sight context :: after.sights context rest
    else after.sights context rest

variable {controller : Controller}

theorem sight_eq (controller : Controller) (context : String) :
    controller.sight context = (controller.aspect context).sight := rfl

/-- The aspect of a button after a run is the outcome of its own turns and the common ones. -/
theorem Sound.aspect_turns (sound : controller.Sound) (context : String) (turns : List Turn) :
    (controller.turns turns).aspect context =
      (turns.filter (·.concerns context)).foldl (·.turn context) (controller.aspect context) := by
  induction turns generalizing controller with
  | nil => rfl
  | cons turn rest ih =>
      have first := sound.aspect_turn context turn
      have later := ih (sound.turn turn)
      rw [first] at later
      by_cases concerned : turn.concerns context = true
      · rw [if_pos concerned] at later
        simp only [List.filter_cons, concerned, if_true, List.foldl_cons]
        exact later
      · rw [if_neg concerned] at later
        simp only [List.filter_cons, concerned, Bool.false_eq_true, if_false]
        exact later

/-- Two controllers that a button cannot tell apart stay so, also if only one of them sees the turns
of other buttons. -/
theorem Sound.sights_filter {left right : Controller} (soundLeft : left.Sound)
    (soundRight : right.Sound) {context : String}
    (alike : left.aspect context = right.aspect context) (turns : List Turn) :
    left.sights context turns = right.sights context (turns.filter (·.concerns context)) := by
  induction turns generalizing left right with
  | nil => rfl
  | cons turn rest ih =>
      have first := soundLeft.aspect_turn context turn
      by_cases concerned : turn.concerns context = true
      · have second := soundRight.aspect_turn context turn
        rw [if_pos concerned] at first second
        have same : (left.turn turn).aspect context = (right.turn turn).aspect context := by
          rw [first, second, alike]
        have rest := ih (soundLeft.turn turn) (soundRight.turn turn) same
        simp only [List.filter_cons, sights, concerned, if_true, sight_eq, same, rest]
      · rw [if_neg concerned] at first
        have rest := ih (soundLeft.turn turn) soundRight (first.trans alike)
        simp only [List.filter_cons, sights, concerned, Bool.false_eq_true, if_false, rest]

theorem Turn.filter_swap {first second : Turn} {owner other : String}
    (firstOwner : first.owner? = some owner) (secondOwner : second.owner? = some other)
    (apart : owner ≠ other) (context : String) (before after : List Turn) :
    (before ++ first :: second :: after).filter (·.concerns context) =
      (before ++ second :: first :: after).filter (·.concerns context) := by
  rw [List.filter_append, List.filter_append]
  congr 1
  by_cases mine : owner = context
  · have foreign : ¬ second.concerns context = true := by
      simpa [Turn.concerns, secondOwner, ← mine] using apart.symm
    simp only [List.filter_cons, foreign, Bool.false_eq_true, if_false]
  · have foreign : ¬ first.concerns context = true := by
      simpa [Turn.concerns, firstOwner] using mine
    simp only [List.filter_cons, foreign, Bool.false_eq_true, if_false]

/-- Buttons do not interfere: without the turns of all other buttons, a button is told the same
after each turn that is left, and at the end. So the turns of two buttons may come in either order,
as far as any button can tell. -/
theorem turns_apart (config : Config) (source : Source) (decoder : Artwork.Decoder)
    (context : String) :
    let controller := Controller.start config source decoder
    (∀ turns : List Turn,
      controller.sights context turns =
        controller.sights context (turns.filter (·.concerns context)) ∧
      (controller.turns turns).sight context =
        (controller.turns (turns.filter (·.concerns context))).sight context) ∧
    (∀ (before after : List Turn) (first second : Turn) (owner other : String),
      first.owner? = some owner → second.owner? = some other → owner ≠ other →
      (controller.turns (before ++ first :: second :: after)).sight context =
        (controller.turns (before ++ second :: first :: after)).sight context) := by
  intro controller
  have sound : controller.Sound := start_sound config source decoder
  refine ⟨?_, ?_⟩
  · intro turns
    refine ⟨sound.sights_filter sound rfl turns, ?_⟩
    rw [sight_eq, sight_eq, sound.aspect_turns, sound.aspect_turns, List.filter_filter]
    simp only [Bool.and_self]
  · intro before after first second owner other firstOwner secondOwner apart
    rw [sight_eq, sight_eq, sound.aspect_turns, sound.aspect_turns,
      Turn.filter_swap firstOwner secondOwner apart]

/-- A pass of one loop and the removal of another button, in either order. -/
theorem turns_apart_left_right :
    let controller := Controller.start {} {} Artwork.decode?
    let appear : List Turn :=
      [.event (.willAppear "left" (.object [])), .event (.willAppear "right" (.object []))]
    let leave : Turn := .message "\x7b\"event\":\"willDisappear\",\"context\":\"right\"\x7d"
    (Turn.tick "left").owner? = some "left" ∧ leave.owner? = some "right" ∧ "left" ≠ "right" ∧
    (controller.turns (appear ++ .tick "left" :: leave :: [])).sight "left" =
      (controller.turns (appear ++ leave :: .tick "left" :: [])).sight "left" := by
  intro controller appear leave
  have ticks : (Turn.tick "left").owner? = some "left" := rfl
  have leaves : leave.owner? = some "right" := by decide +kernel
  have differ : "left" ≠ "right" := by decide
  exact ⟨ticks, leaves, differ,
    (turns_apart {} {} Artwork.decode? "left").2 appear [] (Turn.tick "left") leave "left" "right"
      ticks leaves
      differ⟩

end Controller

end Marquee
