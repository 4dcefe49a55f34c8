import Marquee.Proofs.Deck.Projection
import Marquee.Proofs.Sampler.Twins

/-!
Samples that come to nothing can be put into a run anywhere. They leave the buttons as they are and
the sampler its own twin, and nothing that comes later can tell twins apart.
-/

namespace Marquee

namespace Turn

def samples : Turn → Bool
  | .refresh => true
  | .notify _ _ => true
  | _ => false

def registers : Turn → Bool
  | .notify _ change => change == .sessions
  | _ => false

end Turn

namespace Controller

structure Twin (left right : Controller) : Prop where
  animation : right.animation = left.animation
  panel : right.panel = left.panel
  registry : right.registry = left.registry
  sampler : Sampler.Twin left.sampler right.sampler

variable {left right : Controller}

theorem Twin.refl (controller : Controller) : Twin controller controller :=
  ⟨rfl, rfl, rfl, Sampler.Twin.refl _⟩

theorem Twin.trans {third : Controller} (twin : Twin left right) (other : Twin right third) :
    Twin left third :=
  ⟨other.animation.trans twin.animation, other.panel.trans twin.panel,
    other.registry.trans twin.registry, twin.sampler.trans other.sampler⟩

theorem Twin.symm (twin : Twin left right) : Twin right left :=
  ⟨twin.animation.symm, twin.panel.symm, twin.registry.symm, twin.sampler.symm⟩

theorem Twin.media (twin : Twin left right) : right.media = left.media :=
  twin.sampler.steady.media

theorem twin_note (controller : Controller) (level : Log.Level) (message : String)
    (values : List (String × Log.Value)) : Twin controller (controller.note level message values) :=
  ⟨rfl, rfl, rfl, Sampler.twin_of_unlogged rfl⟩

theorem Twin.note (twin : Twin left right) (level : Log.Level) (message : String)
    (values : List (String × Log.Value)) :
    Twin (left.note level message values) (right.note level message values) :=
  (twin_note _ _ _ _).symm.trans (twin.trans (twin_note _ _ _ _))

section Events

theorem Twin.takeOver (twin : Twin left right) (context : String) :
    Twin (left.takeOver context).1 (right.takeOver context).1 ∧
      (right.takeOver context).2 = (left.takeOver context).2 := by
  cases found : left.registry.find? context with
  | none =>
      have also := twin.registry ▸ found
      rw [takeOver_absent found, takeOver_absent also, twin.animation, twin.panel, twin.registry]
      exact ⟨⟨rfl, rfl, rfl, twin.sampler⟩, rfl⟩
  | some entry =>
      have also := twin.registry ▸ found
      rw [takeOver_found found, takeOver_found also, twin.panel, twin.registry]
      exact ⟨⟨twin.animation, rfl, rfl, twin.sampler⟩, rfl⟩

theorem Twin.endLoop? (twin : Twin left right) (loop : Option Nat) :
    Twin (left.endLoop? loop) (right.endLoop? loop) :=
  ⟨twin.animation, congrArg (·.endLoop? loop) twin.panel, twin.registry, twin.sampler⟩

theorem Twin.spawn (twin : Twin left right) (context : String) (face period : Nat) :
    Twin (left.spawn context face period).1 (right.spawn context face period).1 ∧
      (right.spawn context face period).2 = (left.spawn context face period).2 := by
  have noted : ∀ controller : Controller, Sampler.Twin controller.sampler
      (controller.spawn context face period).1.sampler :=
    fun _ => Sampler.twin_of_unlogged rfl
  exact ⟨⟨twin.animation, congrArg (fun panel => (panel.startLoop face period).1) twin.panel,
    twin.registry, (noted left).symm.trans (twin.sampler.trans (noted right))⟩,
    congrArg (fun panel => (panel.startLoop face period).2) twin.panel⟩

theorem Twin.install (twin : Twin left right) (context : String) (face loop : Nat) :
    Twin (left.install context face loop).1 (right.install context face loop).1 ∧
      (right.install context face loop).2 = (left.install context face loop).2 := by
  unfold Controller.install
  rw [twin.registry]
  cases left.registry.find? context with
  | none => exact ⟨twin, rfl⟩
  | some entry =>
      dsimp only
      by_cases same : entry.face = face
      · rw [if_pos same, if_pos same]
        exact ⟨⟨twin.animation, twin.panel, rfl, twin.sampler⟩, rfl⟩
      · rw [if_neg same, if_neg same]
        exact ⟨twin, rfl⟩

theorem Twin.restart (twin : Twin left right) (context : String) (settings : Json) :
    Twin (left.restart context settings) (right.restart context settings) := by
  have period : right.periodFor settings = left.periodFor settings := by
    simp only [periodFor, twin.animation]
  obtain ⟨taken, told⟩ := twin.takeOver context
  obtain ⟨spawned, started⟩ := (taken.endLoop? (left.takeOver context).2.2).spawn context
    (left.takeOver context).2.1 (left.periodFor settings)
  obtain ⟨installed, answered⟩ := spawned.install context (left.takeOver context).2.1
    (((left.takeOver context).1.endLoop? (left.takeOver context).2.2).spawn context
      (left.takeOver context).2.1 (left.periodFor settings)).2
  simp only [Controller.restart, period, told, started, answered, noteStarted]
  split
  · exact (installed.endLoop? _).note _ _ _
  · exact (installed.endLoop? _).note _ _ _

theorem Twin.disappear (twin : Twin left right) (context : String) :
    Twin (left.disappear context) (right.disappear context) := by
  cases found : left.registry.find? context with
  | none =>
      rw [disappear_absent found, disappear_absent (twin.registry ▸ found)]
      exact twin
  | some entry =>
      rw [disappear_found found, disappear_found (twin.registry ▸ found), twin.registry]
      have erased : Twin { left with registry := left.registry.erase context }
          { right with registry := left.registry.erase context } :=
        ⟨twin.animation, twin.panel, rfl, twin.sampler⟩
      exact (erased.endLoop? _).note _ _ _

theorem Twin.changeFont (twin : Twin left right) (context : String) (size : Nat) :
    Twin (left.changeFont context size) (right.changeFont context size) := by
  simp only [Controller.changeFont, twin.registry, twin.animation, twin.panel]
  split
  · apply Twin.note
    exact ⟨rfl, rfl, rfl, twin.sampler⟩
  · exact twin.note _ _ _

theorem Twin.answer (twin : Twin left right) (event : HostEvent) :
    Twin (left.answer event) (right.answer event) := by
  cases event with
  | willAppear context settings => exact (twin.note _ _ _).restart context settings
  | didReceiveSettings context settings => exact (twin.note _ _ _).restart context settings
  | willDisappear context => exact twin.disappear context
  | titleParametersDidChange context size => exact twin.changeFont context size
  | unknown name => exact twin.note _ _ _
  | _ => exact twin

end Events

section Turns

theorem Twin.published (twin : Twin left right) {first second : Sampler × Bool}
    (samplers : Sampler.Twin first.1 second.1) (told : second.2 = first.2) :
    Twin (left.published first) (right.published second) := by
  obtain ⟨sampler, changed⟩ := first
  obtain ⟨other, also⟩ := second
  subst told
  cases also with
  | false => exact ⟨twin.animation, twin.panel, twin.registry, samplers⟩
  | true =>
      refine ⟨twin.animation, ?_, twin.registry, samplers⟩
      change right.panel.markAll right.registry.faces = left.panel.markAll left.registry.faces
      rw [twin.panel, twin.registry]

theorem Twin.tickAt (twin : Twin left right) (context : String) :
    Twin (left.tickAt context) (right.tickAt context) := by
  have loop : right.loopAt context = left.loopAt context := by
    simp only [loopAt, twin.registry]
  simp only [Controller.tickAt, loop]
  cases left.loopAt context with
  | none => exact twin
  | some number =>
      refine ⟨twin.animation, ?_, twin.registry, twin.sampler⟩
      simp only [Controller.pass, twin.panel, twin.media, twin.animation]

theorem Twin.shutdown (twin : Twin left right) : Twin left.shutdown right.shutdown := by
  refine ⟨twin.animation, ?_, rfl, twin.sampler.detach⟩
  change right.panel.endLoops right.registry.tasks = left.panel.endLoops left.registry.tasks
  rw [twin.panel, twin.registry]

/-- Whatever happens to both, twins stay twins. -/
theorem Twin.turn (twin : Twin left right) (free : left.sampler.busy = false) (turn : Turn) :
    Twin (left.turn turn) (right.turn turn) := by
  cases turn with
  | event event => exact twin.answer event
  | message raw =>
      simp only [Controller.turn]
      cases read : HostEvent.read raw with
      | ok event => exact twin.answer event
      | error fault =>
          simp only [handleMessage, read]
          exact twin.note _ _ _
  | shutdown => exact twin.shutdown
  | tick context => exact twin.tickAt context
  | source edit => exact ⟨twin.animation, twin.panel, twin.registry, twin.sampler.edit edit⟩
  | notify token change =>
      obtain ⟨samplers, told⟩ := twin.sampler.notify free token change
      exact twin.published samplers told
  | refresh => exact twin.published (twin.sampler.sample free) (twin.sampler.sample_snd free)

end Turns

section Pauses

inductive Pauses : Controller → List Turn → Prop
  | nil (controller : Controller) : Pauses controller []
  | source {controller : Controller} {rest : List Turn} (edit : SourceEdit) :
      Pauses (controller.turn (.source edit)) rest → Pauses controller (.source edit :: rest)
  | sample {controller : Controller} {turn : Turn} {rest : List Turn} :
      turn.samples = true → turn.registers = false → controller.sampler.Idles →
      Pauses (controller.turn turn) rest → Pauses controller (turn :: rest)

/-- The second run is the first one with pauses in it, each of which leaves the source as it was. -/
inductive Padded : Controller → List Turn → List Turn → Prop
  | nil (controller : Controller) : Padded controller [] []
  | keep {controller : Controller} {run padded : List Turn} (turn : Turn) :
      Padded (controller.turn turn) run padded → Padded controller (turn :: run) (turn :: padded)
  | pause {controller : Controller} {run padded pause : List Turn} :
      controller.Pauses pause →
      Source.Alike controller.sampler.source (controller.turns pause).sampler.source →
      Padded (controller.turns pause) run padded → Padded controller run (pause ++ padded)

variable {controller : Controller} {turn : Turn} {run padded : List Turn}

/-- A sample that comes to nothing publishes nothing and raises no flag. -/
theorem idle_turn (free : controller.sampler.busy = false) (samples : turn.samples = true)
    (idles : controller.sampler.Idles) :
    Sampler.Steady controller.sampler (controller.turn turn).sampler ∧
      controller.turn turn = { controller with sampler := (controller.turn turn).sampler } := by
  cases turn with
  | refresh =>
      have untold := idles.untold free
      simp only [Controller.turn, refresh, published, untold, Bool.false_eq_true, if_false,
        and_true]
      exact idles.sample free
  | notify token change =>
      obtain ⟨steady, untold⟩ := idles.notify free token change
      simp only [Controller.turn, notify, published, untold, Bool.false_eq_true, if_false,
        and_true]
      exact steady
  | _ => cases samples

theorem twin_idle (free : controller.sampler.busy = false) (samples : turn.samples = true)
    (apart : turn.registers = false) (idles : controller.sampler.Idles) :
    Twin controller (controller.turn turn) := by
  obtain ⟨steady, same⟩ := idle_turn free samples idles
  have holdings : Sampler.SameHoldings controller.sampler (controller.turn turn).sampler := by
    cases turn with
    | refresh =>
        simp only [Controller.turn, refresh, published, idles.untold free, Bool.false_eq_true,
          if_false]
        exact Sampler.sameHoldings_sample _
    | notify token change =>
        have other : change ≠ .sessions := by simpa [Turn.registers] using apart
        simp only [Controller.turn, notify, published, (idles.notify free token change).2,
          Bool.false_eq_true, if_false]
        exact Sampler.sameHoldings_notify _ token other
    | _ => cases samples
  rw [same]
  exact ⟨rfl, rfl, rfl, steady, holdings⟩

structure Still (before after : Controller) : Prop where
  animation : after.animation = before.animation
  panel : after.panel = before.panel
  registry : after.registry = before.registry
  unsampled : Sampler.Unsampled before.sampler after.sampler
  holdings : Sampler.SameHoldings before.sampler after.sampler

theorem Twin.still (twin : Twin left right) : Still left right :=
  ⟨twin.animation, twin.panel, twin.registry, twin.sampler.steady.toUnsampled,
    twin.sampler.holdings⟩

theorem Still.trans {first second third : Controller} (earlier : Still first second)
    (later : Still second third) : Still first third :=
  ⟨later.animation.trans earlier.animation, later.panel.trans earlier.panel,
    later.registry.trans earlier.registry, earlier.unsampled.trans later.unsampled,
    earlier.holdings.trans later.holdings⟩

theorem still_source (controller : Controller) (edit : SourceEdit) :
    Still controller (controller.turn (.source edit)) :=
  ⟨rfl, rfl, rfl, Sampler.unsampled_edit _ edit, Sampler.sameHoldings_edit _ edit⟩

theorem Pauses.still {pause : List Turn} (pauses : controller.Pauses pause)
    (free : controller.sampler.busy = false) : Still controller (controller.turns pause) := by
  induction pauses with
  | nil controller => exact (Twin.refl controller).still
  | @source controller rest edit later ih =>
      have edited := controller.still_source edit
      exact edited.trans (ih free)
  | @sample controller turn rest samples apart idles later ih =>
      have idle := twin_idle free samples apart idles
      exact idle.still.trans (ih (idle.sampler.steady.busy.trans free))

theorem busy_aspect (aspect : Aspect) (free : aspect.sampler.busy = false) (context : String)
    (turn : Turn) : (aspect.turn context turn).sampler.busy = false := by
  have answers : ∀ told, (aspect.answer context told).sampler.busy = false := by
    intro told
    cases told <;> exact free
  have publishes : ∀ result : Sampler × Bool, result.1.busy = false →
      (aspect.published result).sampler.busy = false := by
    intro result idle
    unfold Aspect.published
    split <;> exact idle
  cases turn with
  | event told => exact answers told
  | message raw =>
      simp only [Aspect.turn]
      split
      · exact answers _
      · exact free
  | shutdown => exact (Sampler.steady_detach _).busy.trans free
  | tick _ =>
      simp only [Aspect.turn, Aspect.pass]
      split <;> exact free
  | source edit => exact free
  | notify token change => exact publishes _ (Sampler.busy_notify free token change)
  | refresh => exact publishes _ (Sampler.busy_sample free)

/-- Between two turns no sample is under way. -/
theorem Sound.busy_turn (sound : controller.Sound) (free : controller.sampler.busy = false)
    (turn : Turn) : (controller.turn turn).sampler.busy = false := by
  have seen := congrArg (fun aspect => aspect.sampler.busy) (sound.aspect_turn "" turn)
  split at seen
  · exact seen.trans (busy_aspect _ free _ _)
  · exact seen.trans free

theorem Sound.busy_turns (sound : controller.Sound) (free : controller.sampler.busy = false)
    (turns : List Turn) : (controller.turns turns).sampler.busy = false := by
  induction turns generalizing controller with
  | nil => exact free
  | cons turn rest ih => exact ih (sound.turn turn) (sound.busy_turn free turn)

theorem busy_published (controller : Controller) {result : Sampler × Bool}
    (free : result.1.busy = false) : (controller.published result).sampler.busy = false := by
  obtain ⟨sampler, changed⟩ := result
  cases changed <;> exact free

theorem busy_start (config : Config) (source : Source) (decoder : Artwork.Decoder) :
    (Controller.start config source decoder).sampler.busy = false := by
  refine busy_published _ (Sampler.busy_attach ?_)
  rfl

theorem Padded.refl (controller : Controller) (run : List Turn) : Padded controller run run := by
  induction run generalizing controller with
  | nil => exact .nil controller
  | cons turn rest ih => exact .keep turn (ih _)

theorem Padded.after {before : List Turn} (later : (controller.turns before).Padded run padded) :
    controller.Padded (before ++ run) (before ++ padded) := by
  induction before generalizing controller with
  | nil => exact later
  | cons turn rest ih => exact .keep turn (ih later)

theorem Padded.twin (filled : right.Padded run padded) (sound : right.Sound)
    (free : right.sampler.busy = false) (twin : Twin left right) :
    Twin (left.turns run) (right.turns padded) := by
  induction filled generalizing left with
  | nil => exact twin
  | @keep controller run padded turn later ih =>
      have still : left.sampler.busy = false := twin.sampler.steady.busy.symm.trans free
      exact ih (sound.turn turn) (sound.busy_turn free turn) (twin.turn still turn)
  | @pause controller run padded pause pauses restored later ih =>
      have still := pauses.still free
      have paused : Twin controller (controller.turns pause) :=
        ⟨still.animation, still.panel, still.registry, ⟨still.unsampled, restored⟩, still.holdings⟩
      have ends := ih (sound.turns pause) (still.unsampled.busy.trans free) (twin.trans paused)
      have joined : controller.turns (pause ++ padded) = (controller.turns pause).turns padded :=
        List.foldl_append
      rw [joined]
      exact ends

end Pauses

end Controller

end Marquee
