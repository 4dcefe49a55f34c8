import Marquee.Proofs.Traffic.Calls
import Marquee.Proofs.Traffic.Panel
import Marquee.Proofs.Traffic.Registry

/-!
What one section of a call does to the registry and to the panel, and what the call has in its hand
afterwards.
-/

namespace Marquee.Controller

variable {controller : Controller}

theorem takeOver_found {context : String} {entry : Entry}
    (found : controller.registry.find? context = some entry) :
    controller.takeOver context =
      ({ controller with
        panel := controller.panel.changeFace entry.face Face.markDirty
        registry := controller.registry.insert context ⟨entry.face, entry.animator.take.1⟩ },
        entry.face, entry.animator.task) := by
  unfold takeOver
  rw [found]
  rfl

theorem takeOver_absent {context : String} (absent : controller.registry.find? context = none) :
    controller.takeOver context =
      let newcomer : Face := { context := context, width := controller.animation.initialWidth }
      ({ controller with
        panel := (controller.panel.addFace newcomer.markDirty).1
        registry := controller.registry.insert context ⟨controller.panel.faces.length, {}⟩ },
        controller.panel.faces.length, none) := by
  unfold takeOver
  rw [absent]
  rfl

/-- A loop is installed in the button that it was started for and displaces the loop there, or this
button is gone and the loop is handed back. -/
theorem install_cases (controller : Controller) (context : String) (face loop : Nat) :
    (∃ entry, controller.registry.find? context = some entry ∧ entry.face = face ∧
      controller.install context face loop =
        ({ controller with
          registry := controller.registry.insert context ⟨face, (entry.animator.install loop).1⟩ },
          true, entry.animator.task)) ∨
      (∀ entry, controller.registry.find? context = some entry → entry.face ≠ face) ∧
        controller.install context face loop = (controller, false, some loop) := by
  unfold install
  cases found : controller.registry.find? context with
  | none => exact Or.inr ⟨nofun, rfl⟩
  | some entry =>
      by_cases same : entry.face = face
      · refine Or.inl ⟨entry, rfl, same, ?_⟩
        simp only [same, if_true]
        rfl
      · refine Or.inr ⟨?_, ?_⟩
        · intro other known
          cases known
          exact same
        · simp only [same, if_false]

theorem advance_disappear_absent {context : String}
    (absent : controller.registry.find? context = none) :
    controller.advance (.disappear context) = (controller, .returned) := by
  simp only [advance, remove, absent, Option.map_none]

theorem advance_disappear_found {context : String} {entry : Entry}
    (found : controller.registry.find? context = some entry) :
    controller.advance (.disappear context) =
      ({ controller with registry := controller.registry.erase context },
        .leaving context entry.animator.task) := by
  simp only [advance, remove, found, Option.map_some, Animator.stop]

theorem registry_noteStarted (context : String) (period : Nat) (installed : Bool) :
    (controller.noteStarted context period installed).registry = controller.registry := by
  cases installed <;> rfl

theorem panel_noteStarted (context : String) (period : Nat) (installed : Bool) :
    (controller.noteStarted context period installed).panel = controller.panel := by
  cases installed <;> rfl

theorem registry_takeOver (controller : Controller) (context : String) :
    ∃ entry, (controller.takeOver context).1.registry =
        controller.registry.insert context entry ∧
      entry.face = (controller.takeOver context).2.1 ∧ entry.animator.task = none := by
  cases found : controller.registry.find? context with
  | none =>
      rw [takeOver_absent found]
      exact ⟨_, rfl, rfl, rfl⟩
  | some entry =>
      rw [takeOver_found found]
      exact ⟨_, rfl, rfl, rfl⟩

theorem distinct_takeOver (controller : Controller) (distinct : controller.registry.Distinct)
    (context : String) :
    (controller.takeOver context).1.registry.Distinct := by
  obtain ⟨entry, inserted, _⟩ := controller.registry_takeOver context
  rw [inserted]
  exact Registry.distinct_insert distinct context entry

theorem distinct_install (distinct : controller.registry.Distinct) (context : String)
    (face loop : Nat) : (controller.install context face loop).1.registry.Distinct := by
  rcases controller.install_cases context face loop with ⟨_, _, _, installed⟩ | ⟨_, rejected⟩
  · rw [installed]
    exact Registry.distinct_insert distinct context _
  · rw [rejected]
    exact distinct

theorem distinct_advance (distinct : controller.registry.Distinct) (call : Call) :
    (controller.advance call).1.registry.Distinct := by
  cases call with
  | appear context settings =>
      exact distinct_takeOver
        (controller.note .debug "button appeared" [("context", .text context)]) distinct context
  | settings context settings =>
      exact distinct_takeOver
        (controller.note .debug "button settings received" [("context", .text context)]) distinct
        context
  | ending job former => exact distinct
  | starting job => exact distinct
  | installing job loop => exact distinct_install distinct job.context job.face loop
  | closing job installed rejected =>
      unfold advance
      rw [registry_noteStarted]
      exact distinct
  | disappear context =>
      cases found : controller.registry.find? context with
      | none =>
          rw [advance_disappear_absent found]
          exact distinct
      | some entry =>
          rw [advance_disappear_found found]
          exact Registry.distinct_erase distinct context
  | leaving context loop => exact distinct
  | shutdown => exact distinct
  | draining => exact List.nodup_nil
  | emptying loops => cases loops <;> exact distinct
  | returned => exact distinct

theorem keeps_takeOver (controller : Controller) (context : String) :
    Panel.Keeps controller.panel (controller.takeOver context).1.panel := by
  cases found : controller.registry.find? context with
  | none =>
      rw [takeOver_absent found]
      exact Panel.keeps_addFace controller.panel _
  | some entry =>
      rw [takeOver_found found]
      exact Panel.keeps_changeFace controller.panel entry.face fun _ => rfl

theorem panel_install (controller : Controller) (context : String) (face loop : Nat) :
    (controller.install context face loop).1.panel = controller.panel := by
  unfold install
  split
  · split <;> rfl
  · rfl

theorem keeps_advance (controller : Controller) (call : Call) :
    Panel.Keeps controller.panel (controller.advance call).1.panel := by
  cases call with
  | appear context settings =>
      exact keeps_takeOver
        (controller.note .debug "button appeared" [("context", .text context)]) context
  | settings context settings =>
      exact keeps_takeOver
        (controller.note .debug "button settings received" [("context", .text context)]) context
  | ending job former => exact Panel.keeps_endLoop? controller.panel former
  | starting job => exact Panel.keeps_startLoop controller.panel job.face job.period
  | installing job loop =>
      change Panel.Keeps _ (controller.install job.context job.face loop).1.panel
      rw [panel_install]
      exact Panel.Keeps.refl controller.panel
  | closing job installed rejected =>
      unfold advance
      rw [panel_noteStarted]
      exact Panel.keeps_endLoop? controller.panel rejected
  | disappear context =>
      cases found : controller.registry.find? context with
      | none =>
          rw [advance_disappear_absent found]
          exact Panel.Keeps.refl controller.panel
      | some entry =>
          rw [advance_disappear_found found]
          exact Panel.Keeps.refl controller.panel
  | leaving context loop => exact Panel.keeps_endLoop? controller.panel loop
  | shutdown => exact Panel.Keeps.refl controller.panel
  | draining => exact Panel.Keeps.refl controller.panel
  | emptying loops =>
      cases loops with
      | nil => exact Panel.Keeps.refl controller.panel
      | cons loop rest => exact Panel.keeps_endLoop? controller.panel (some loop)
  | returned => exact Panel.Keeps.refl controller.panel

end Marquee.Controller
