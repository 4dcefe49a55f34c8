import Marquee.Proofs.Traffic.Sections

/-!
What a call knows of the panel, and which buttons wait for it. A button without a loop waits for a
call that is going to install one in just this button.
-/

namespace Marquee

namespace Call

def left? : Call → Option (String × Nat)
  | leaving context (some loop) => some (context, loop)
  | _ => none

theorem eq_leaving_of_left? {call : Call} {context : String} {loop : Nat}
    (known : call.left? = some (context, loop)) : call = .leaving context (some loop) := by
  cases call with
  | leaving other former =>
      cases former with
      | none => cases known
      | some former =>
          cases known
          rfl
  | _ => cases known

structure Fits (panel : Panel) (call : Call) : Prop where
  context : ∀ {job}, call.job? = some job → panel.contextOf job.face = some job.context
  face : ∀ {job loop}, call.job? = some job → loop ∈ call.loops →
    panel.faceOf loop = some job.face
  left : ∀ {context loop}, call.left? = some (context, loop) →
    ∃ face, panel.faceOf loop = some face ∧ panel.contextOf face = some context

theorem fits_of_jobless {panel : Panel} {call : Call} (jobless : call.job? = none)
    (stays : call.left? = none) : call.Fits panel := by
  refine ⟨?_, ?_, ?_⟩
  · intro job known
    rw [jobless] at known
    cases known
  · intro job loop known
    rw [jobless] at known
    cases known
  · intro context loop known
    rw [stays] at known
    cases known

theorem Fits.keeps {before after : Panel} {call : Call} (fits : call.Fits before)
    (keeps : Panel.Keeps before after) : call.Fits after := by
  refine ⟨fun known => keeps.context (fits.context known),
    fun known held => keeps.face (fits.face known held), ?_⟩
  intro context loop same
  obtain ⟨face, drawn, whose⟩ := fits.left same
  exact ⟨face, keeps.face drawn, keeps.context whose⟩

theorem Fits.goOn {panel : Panel} {call after : Call} (fits : call.Fits panel) {job : Job}
    (known : call.job? = some job) (same : after.job? = some job)
    (fewer : ∀ loop ∈ after.loops, loop ∈ call.loops) : after.Fits panel := by
  refine ⟨?_, ?_, ?_⟩
  · intro other otherKnown
    rw [same] at otherKnown
    cases otherKnown
    exact fits.context known
  · intro other loop otherKnown held
    rw [same] at otherKnown
    cases otherKnown
    exact fits.face known (fewer loop held)
  · intro context loop left
    rw [eq_leaving_of_left? left] at same
    cases same

def Awaits (call : Call) (context : String) (face : Nat) : Prop :=
  ∃ job, call.pending? = some job ∧ job.context = context ∧ job.face = face

theorem not_awaits {call : Call} (idle : call.pending? = none) (context : String) (face : Nat) :
    ¬ call.Awaits context face := by
  intro awaits
  obtain ⟨job, known, _⟩ := awaits
  rw [idle] at known
  cases known

end Call

structure Registry.Fits (registry : Registry) (panel : Panel) : Prop where
  context : ∀ {context entry}, registry.find? context = some entry →
    panel.contextOf entry.face = some context
  face : ∀ {context entry loop}, registry.find? context = some entry →
    entry.animator.task = some loop → panel.faceOf loop = some entry.face

namespace Registry

theorem Fits.keeps {registry : Registry} {before after : Panel} (fits : registry.Fits before)
    (keeps : Panel.Keeps before after) : registry.Fits after :=
  ⟨fun found => keeps.context (fits.context found),
    fun found task => keeps.face (fits.face found task)⟩

theorem Fits.insert {registry : Registry} {panel : Panel} (fits : registry.Fits panel)
    {context : String} {entry : Entry} (whose : panel.contextOf entry.face = some context)
    (drawn : ∀ {loop}, entry.animator.task = some loop → panel.faceOf loop = some entry.face) :
    (registry.insert context entry).Fits panel := by
  refine ⟨?_, ?_⟩
  · intro other kept found
    by_cases same : other = context
    · rw [same, find?_insert_self] at found
      cases found
      rw [same]
      exact whose
    · rw [find?_insert_other registry entry same] at found
      exact fits.context found
  · intro other kept loop found task
    by_cases same : other = context
    · rw [same, find?_insert_self] at found
      cases found
      exact drawn task
    · rw [find?_insert_other registry entry same] at found
      exact fits.face found task

theorem Fits.erase {registry : Registry} {panel : Panel} (fits : registry.Fits panel)
    (context : String) : (registry.erase context).Fits panel :=
  ⟨fun found => fits.context (find?_of_erase found),
    fun found => fits.face (find?_of_erase found)⟩

theorem fits_empty (panel : Panel) : ({} : Registry).Fits panel := by
  refine ⟨?_, ?_⟩
  · intro context entry found
    cases found
  · intro context entry loop found
    cases found

end Registry

namespace Controller

theorem fits_enter (controller : Controller) (fits : controller.registry.Fits controller.panel)
    (context : String) (settings : Json) :
    let entered := controller.enter context settings
    entered.1.registry.Fits entered.1.panel ∧ entered.2.Fits entered.1.panel := by
  simp only [enter]
  have keeps := controller.keeps_takeOver context
  cases found : controller.registry.find? context with
  | none =>
      rw [takeOver_absent found] at keeps ⊢
      have whose := Panel.contextOf_addFace controller.panel
        { context := context, width := controller.animation.initialWidth : Face }.markDirty
      refine ⟨(fits.keeps keeps).insert whose ?_, ?_, ?_, ?_⟩
      · intro loop task
        cases task
      · intro job known
        cases known
        exact whose
      · intro job loop known held
        cases held
      · intro other loop same
        cases same
  | some entry =>
      rw [takeOver_found found] at keeps ⊢
      have whose := (fits.keeps keeps).context found
      refine ⟨(fits.keeps keeps).insert whose ?_, ?_, ?_, ?_⟩
      · intro loop task
        cases task
      · intro job known
        cases known
        exact whose
      · intro job loop known held
        cases known
        exact fits.face found (Option.mem_toList.mp held)
      · intro other loop same
        cases same

theorem fits_install {controller : Controller} {job : Job} {loop : Nat}
    (fits : controller.registry.Fits controller.panel)
    (callFits : (Call.installing job loop).Fits controller.panel) :
    let result := controller.install job.context job.face loop
    result.1.registry.Fits controller.panel ∧
      (Call.closing job result.2.1 result.2.2).Fits controller.panel := by
  intro result
  have whose := callFits.context rfl
  have drawn := callFits.face rfl (List.mem_singleton_self loop)
  rcases controller.install_cases job.context job.face loop with
    ⟨entry, found, same, installed⟩ | ⟨_, rejected⟩
  · simp only [result, installed]
    refine ⟨fits.insert whose ?_, ?_, ?_, ?_⟩
    · intro task known
      cases known
      exact drawn
    · intro other known
      cases known
      exact whose
    · intro other former known held
      cases known
      rw [← same]
      exact fits.face found (Option.mem_toList.mp held)
    · intro context former left
      cases left
  · simp only [result, rejected]
    exact ⟨fits, callFits.goOn rfl rfl fun other held => held⟩

theorem fits_spawn {controller : Controller} {job : Job}
    (callFits : (Call.starting job).Fits controller.panel) :
    let spawned := controller.spawn job.context job.face job.period
    (Call.installing job spawned.2).Fits spawned.1.panel := by
  intro spawned
  have keeps := Panel.keeps_startLoop controller.panel job.face job.period
  refine ⟨?_, ?_, ?_⟩
  · intro other known
    cases known
    exact keeps.context (callFits.context rfl)
  · intro other loop known held
    cases known
    cases List.mem_singleton.mp held
    exact Panel.faceOf_startLoop controller.panel job.face job.period
  · intro context loop left
    cases left

theorem fits_advance {controller : Controller} {call : Call}
    (fits : controller.registry.Fits controller.panel) (callFits : call.Fits controller.panel) :
    (controller.advance call).1.registry.Fits (controller.advance call).1.panel ∧
      (controller.advance call).2.Fits (controller.advance call).1.panel := by
  have keeps := controller.keeps_advance call
  have later := fits.keeps keeps
  cases call with
  | appear context settings =>
      exact fits_enter (controller.note .debug "button appeared" [("context", .text context)]) fits
        context settings
  | settings context settings =>
      exact fits_enter
        (controller.note .debug "button settings received" [("context", .text context)]) fits
        context settings
  | ending job former =>
      exact ⟨later, (callFits.keeps keeps).goOn rfl rfl fun loop held => by cases held⟩
  | starting job => exact ⟨later, fits_spawn callFits⟩
  | installing job loop =>
      have installed := fits_install fits callFits
      rw [← panel_install controller job.context job.face loop] at installed
      exact installed
  | closing job installed rejected =>
      have still : controller.registry.Fits (controller.endLoop? rejected).panel :=
        fits.keeps (Panel.keeps_endLoop? controller.panel rejected)
      simp only [advance, registry_noteStarted, panel_noteStarted]
      exact ⟨still, Call.fits_of_jobless rfl rfl⟩
  | disappear context =>
      cases found : controller.registry.find? context with
      | none =>
          rw [advance_disappear_absent found]
          exact ⟨fits, Call.fits_of_jobless rfl rfl⟩
      | some entry =>
          rw [advance_disappear_found found]
          refine ⟨fits.erase context, ?_, ?_, ?_⟩
          · intro job known
            cases known
          · intro job loop known
            cases known
          · intro other loop left
            obtain ⟨rfl, task⟩ := Call.leaving.inj (Call.eq_leaving_of_left? left)
            exact ⟨entry.face, fits.face found task, fits.context found⟩
  | leaving context loop => exact ⟨later, Call.fits_of_jobless rfl rfl⟩
  | shutdown => exact ⟨fits, Call.fits_of_jobless rfl rfl⟩
  | draining => exact ⟨Registry.fits_empty _, Call.fits_of_jobless rfl rfl⟩
  | emptying loops =>
      cases loops with
      | nil => exact ⟨fits, Call.fits_of_jobless rfl rfl⟩
      | cons loop rest => exact ⟨later, Call.fits_of_jobless rfl rfl⟩
  | returned => exact ⟨fits, callFits⟩

theorem awaits_enter (controller : Controller) {fresh context : String} {settings : Json}
    {entry : Entry}
    (found : (controller.enter fresh settings).1.registry.find? context = some entry) :
    (controller.enter fresh settings).2.Awaits context entry.face ∨
      controller.registry.find? context = some entry := by
  simp only [enter] at found ⊢
  obtain ⟨made, inserted, face, _⟩ := controller.registry_takeOver fresh
  rw [inserted] at found
  by_cases own : context = fresh
  · rw [own, Registry.find?_insert_self] at found
    cases found
    exact Or.inl ⟨_, rfl, own.symm, face.symm⟩
  · rw [Registry.find?_insert_other _ made own] at found
    exact Or.inr found

theorem awaits_install {controller : Controller} {job : Job} {loop : Nat} {context : String}
    {entry : Entry}
    (found : (controller.install job.context job.face loop).1.registry.find? context = some entry)
    (idle : entry.animator.task = none) :
    controller.registry.find? context = some entry ∧
      ¬ (Call.installing job loop).Awaits context entry.face := by
  rcases controller.install_cases job.context job.face loop with
    ⟨kept, _, _, installed⟩ | ⟨gone, rejected⟩
  · rw [installed] at found
    by_cases own : context = job.context
    · rw [own, Registry.find?_insert_self] at found
      cases found
      cases idle
    · rw [Registry.find?_insert_other _ _ own] at found
      refine ⟨found, ?_⟩
      intro awaits
      obtain ⟨other, known, whose, _⟩ := awaits
      cases known
      exact own whose.symm
  · rw [rejected] at found
    refine ⟨found, ?_⟩
    intro awaits
    obtain ⟨other, known, whose, drawn⟩ := awaits
    cases known
    exact gone entry (whose ▸ found) drawn.symm

/-- A button that is without a loop after a section waits for the call, or it was so before and does
not wait for this call. -/
theorem awaits_advance {controller : Controller} {call : Call} {context : String} {entry : Entry}
    (found : (controller.advance call).1.registry.find? context = some entry)
    (idle : entry.animator.task = none) :
    (controller.advance call).2.Awaits context entry.face ∨
      controller.registry.find? context = some entry ∧ ¬ call.Awaits context entry.face := by
  cases call with
  | appear fresh settings =>
      have noted := awaits_enter
        (controller.note .debug "button appeared" [("context", .text fresh)]) found
      exact noted.imp_right fun still => ⟨still, Call.not_awaits rfl _ _⟩
  | settings fresh settings =>
      have noted := awaits_enter
        (controller.note .debug "button settings received" [("context", .text fresh)]) found
      exact noted.imp_right fun still => ⟨still, Call.not_awaits rfl _ _⟩
  -- The job is the same after these two sections, and so is what the call awaits.
  | ending job former => exact (Classical.em _).imp_right fun free => ⟨found, free⟩
  | starting job => exact (Classical.em _).imp_right fun free => ⟨found, free⟩
  | installing job loop => exact Or.inr (awaits_install found idle)
  | closing job installed rejected =>
      simp only [advance, registry_noteStarted] at found
      exact Or.inr ⟨found, Call.not_awaits rfl _ _⟩
  | disappear gone =>
      cases known : controller.registry.find? gone with
      | none =>
          rw [advance_disappear_absent known] at found
          exact Or.inr ⟨found, Call.not_awaits rfl _ _⟩
      | some kept =>
          rw [advance_disappear_found known] at found
          exact Or.inr ⟨Registry.find?_of_erase found, Call.not_awaits rfl _ _⟩
  | leaving gone loop => exact Or.inr ⟨found, Call.not_awaits rfl _ _⟩
  | shutdown => exact Or.inr ⟨found, Call.not_awaits rfl _ _⟩
  | draining => cases found
  | emptying loops => cases loops <;> exact Or.inr ⟨found, Call.not_awaits rfl _ _⟩
  | returned => exact Or.inr ⟨found, Call.not_awaits rfl _ _⟩

end Controller

end Marquee
