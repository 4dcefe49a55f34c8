import Mathlib.Data.List.Nodup
import Marquee.Proofs.Sampler.Media
import Marquee.Proofs.Traffic.Jobs

/-!
What is done to the flag of a button by everything but a draw: a new button begins with its flag
raised, new media raise the flag of every button, and whatever else is done leaves both as they are.
-/

namespace Marquee

namespace Panel

theorem faces_endLoop? (panel : Panel) (loop : Option Nat) :
    (panel.endLoop? loop).faces = panel.faces := by
  cases loop <;> rfl

theorem sent_endLoop? (panel : Panel) (loop : Option Nat) :
    (panel.endLoop? loop).sent = panel.sent := by
  cases loop <;> rfl

theorem sent_markAll (panel : Panel) (faces : List Nat) :
    (panel.markAll faces).sent = panel.sent := by
  induction faces generalizing panel with
  | nil => rfl
  | cons face rest ih => exact ih (panel.changeFace face Face.markDirty)

theorem face_markAll_other {faces : List Nat} {face : Nat} (absent : face ∉ faces) (panel : Panel) :
    (panel.markAll faces).faces[face]? = panel.faces[face]? := by
  induction faces generalizing panel with
  | nil => rfl
  | cons first rest ih =>
      obtain ⟨differ, later⟩ := not_or.mp fun found => absent (List.mem_cons.mpr found)
      exact (ih later (panel.changeFace first Face.markDirty)).trans
        (panel.face_changeFace_other differ Face.markDirty)

theorem face_markAll {faces : List Nat} (nodup : faces.Nodup) {face : Nat} (listed : face ∈ faces)
    (panel : Panel) :
    (panel.markAll faces).faces[face]? = (panel.faces[face]?).map Face.markDirty := by
  induction faces generalizing panel with
  | nil => cases listed
  | cons first rest ih =>
      obtain ⟨outside, distinct⟩ := List.nodup_cons.mp nodup
      by_cases same : face = first
      · subst same
        exact (face_markAll_other outside (panel.changeFace face Face.markDirty)).trans
          (panel.face_changeFace_self face Face.markDirty)
      · have later := (List.mem_cons.mp listed).resolve_left same
        rw [← panel.face_changeFace_other same Face.markDirty]
        exact ih distinct later (panel.changeFace first Face.markDirty)

end Panel

theorem Registry.Fits.nodup_faces {registry : Registry} {panel : Panel}
    (fits : registry.Fits panel) (distinct : registry.Distinct) : registry.faces.Nodup := by
  have whose : registry.faces.map panel.contextOf = registry.contexts.map some := by
    unfold Registry.faces Registry.contexts
    rw [List.map_map, List.map_map]
    apply List.map_congr_left
    intro entry member
    exact fits.context (Registry.find?_of_mem distinct member)
  have apart : (registry.faces.map panel.contextOf).Nodup := by
    rw [whose]
    exact List.Nodup.map (fun _ _ => Option.some.inj) distinct
  exact apart.of_map

theorem Registry.Fits.face_ne {registry : Registry} {panel : Panel} (fits : registry.Fits panel)
    {context other : String} {entry otherEntry : Entry} (differ : context ≠ other)
    (found : registry.find? context = some entry)
    (otherFound : registry.find? other = some otherEntry) : entry.face ≠ otherEntry.face := by
  intro same
  have whose := fits.context found
  rw [same, fits.context otherFound] at whose
  exact differ (Option.some.inj whose).symm

namespace Controller

def faceAt (controller : Controller) (context : String) : Option Face :=
  (controller.registry.find? context).bind fun entry => controller.panel.faces[entry.face]?

theorem faceAt_eq_some_iff {controller : Controller} {context : String} {face : Face} :
    controller.faceAt context = some face ↔
      ∃ entry, controller.registry.find? context = some entry ∧
        controller.panel.faces[entry.face]? = some face :=
  Option.bind_eq_some_iff

/-- What becomes of a button where nothing is drawn: it is new and its flag was raised, or its flag
was raised once more, or neither the flag nor the media have changed. -/
structure Leaves (before after : Controller) (context : String) : Prop where
  sent : after.panel.sent = before.panel.sent
  flag : ∀ {face}, after.faceAt context = some face →
    face.flag = ({} : ChangeFlag).raise ∨
      ∃ earlier, before.faceAt context = some earlier ∧
        (face.flag = earlier.flag.raise ∨
          face.flag = earlier.flag ∧ after.media = before.media)

theorem leaves_of_kept {before after : Controller} {context : String}
    (sent : after.panel.sent = before.panel.sent) (media : after.media = before.media)
    (kept : ∀ {entry}, after.registry.find? context = some entry →
      ∃ former, before.registry.find? context = some former ∧ former.face = entry.face ∧
        after.panel.faces[former.face]? = before.panel.faces[former.face]?) :
    Leaves before after context := by
  refine ⟨sent, ?_⟩
  intro face known
  obtain ⟨entry, found, shown⟩ := faceAt_eq_some_iff.mp known
  obtain ⟨former, foundFormer, same, untouched⟩ := kept found
  rw [same] at untouched
  refine Or.inr ⟨face, ?_, Or.inr ⟨rfl, media⟩⟩
  refine faceAt_eq_some_iff.mpr ⟨former, foundFormer, ?_⟩
  rw [same, ← untouched]
  exact shown

theorem Leaves.refl (controller : Controller) (context : String) :
    Leaves controller controller context :=
  leaves_of_kept rfl rfl fun {entry} found => ⟨entry, found, rfl, rfl⟩

theorem leaves_changeFace {before after : Controller} {context : String} {entry : Entry}
    {change : Face → Face} (registered : before.registry.find? context = some entry)
    (kept : ∃ latest, after.registry.find? context = some latest ∧ latest.face = entry.face)
    (sent : after.panel.sent = before.panel.sent)
    (faces : after.panel.faces[entry.face]? = (before.panel.faces[entry.face]?).map change)
    (flags : ∀ face, (change face).flag = face.flag.raise ∨
      (change face).flag = face.flag ∧ after.media = before.media) :
    Leaves before after context := by
  refine ⟨sent, ?_⟩
  intro face known
  obtain ⟨latest, found, same⟩ := kept
  obtain ⟨entry, foundEntry, shown⟩ := faceAt_eq_some_iff.mp known
  rw [found] at foundEntry
  cases foundEntry
  rw [same, faces] at shown
  obtain ⟨earlier, drawn, changed⟩ := Option.map_eq_some_iff.mp shown
  refine Or.inr ⟨earlier, faceAt_eq_some_iff.mpr ⟨_, registered, drawn⟩, ?_⟩
  rw [← changed]
  exact flags earlier

theorem leaves_takeOver (controller : Controller)
    (fits : controller.registry.Fits controller.panel) (fresh context : String) :
    Leaves controller (controller.takeOver fresh).1 context := by
  cases found : controller.registry.find? fresh with
  | none =>
      rw [takeOver_absent found]
      by_cases own : context = fresh
      · subst own
        refine ⟨rfl, ?_⟩
        intro face known
        simp only [faceAt, Registry.find?_insert_self, Option.bind_some, Panel.addFace,
          List.getElem?_concat_length, Option.some.injEq] at known
        rw [← known]
        exact Or.inl rfl
      · refine leaves_of_kept rfl rfl ?_
        intro former registered
        rw [Registry.find?_insert_other _ _ own] at registered
        obtain ⟨face, shown, _⟩ := Option.map_eq_some_iff.mp (fits.context registered)
        have bound := (List.getElem?_eq_some_iff.mp shown).1
        exact ⟨former, registered, rfl, List.getElem?_append_left bound⟩
  | some entry =>
      rw [takeOver_found found]
      by_cases own : context = fresh
      · subst own
        exact leaves_changeFace found ⟨_, Registry.find?_insert_self _ _ _, rfl⟩ rfl
          (controller.panel.face_changeFace_self entry.face Face.markDirty) fun _ => Or.inl rfl
      · refine leaves_of_kept rfl rfl ?_
        intro former registered
        rw [Registry.find?_insert_other _ _ own] at registered
        exact ⟨former, registered, rfl,
          controller.panel.face_changeFace_other (fits.face_ne own registered found) _⟩

theorem leaves_install (controller : Controller) (fresh context : String) (face loop : Nat) :
    Leaves controller (controller.install fresh face loop).1 context := by
  rcases controller.install_cases fresh face loop with
    ⟨entry, found, same, installed⟩ | ⟨_, rejected⟩
  · rw [installed]
    refine leaves_of_kept rfl rfl ?_
    intro latest registered
    by_cases own : context = fresh
    · subst own
      rw [Registry.find?_insert_self] at registered
      cases registered
      exact ⟨entry, found, same, rfl⟩
    · rw [Registry.find?_insert_other _ _ own] at registered
      exact ⟨latest, registered, rfl, rfl⟩
  · rw [rejected]
    exact Leaves.refl controller context

theorem leaves_endLoop? (controller : Controller) (loop : Option Nat) (context : String) :
    Leaves controller (controller.endLoop? loop) context := by
  refine leaves_of_kept (controller.panel.sent_endLoop? loop) rfl ?_
  intro entry found
  refine ⟨entry, found, rfl, ?_⟩
  change (controller.panel.endLoop? loop).faces[entry.face]? = _
  rw [Panel.faces_endLoop?]

/-- Every section of a call leaves every button with its flag raised or as it was. -/
theorem leaves_advance (controller : Controller) (call : Call)
    (fits : controller.registry.Fits controller.panel) (context : String) :
    Leaves controller (controller.advance call).1 context := by
  cases call with
  | appear fresh settings =>
      have entered := leaves_takeOver
        (controller.note .debug "button appeared" [("context", .text fresh)]) fits fresh context
      exact ⟨entered.sent, entered.flag⟩
  | settings fresh settings =>
      have entered := leaves_takeOver
        (controller.note .debug "button settings received" [("context", .text fresh)]) fits fresh
        context
      exact ⟨entered.sent, entered.flag⟩
  | ending job former => exact leaves_endLoop? controller former context
  | starting job => exact leaves_of_kept rfl rfl fun found => ⟨_, found, rfl, rfl⟩
  | installing job loop => exact leaves_install controller job.context context job.face loop
  | closing job installed rejected =>
      have ended := leaves_endLoop? controller rejected context
      cases installed <;> exact ⟨ended.sent, ended.flag⟩
  | disappear gone =>
      cases known : controller.registry.find? gone with
      | none =>
          rw [advance_disappear_absent known]
          exact Leaves.refl controller context
      | some entry =>
          rw [advance_disappear_found known]
          exact leaves_of_kept rfl rfl fun found => ⟨_, Registry.find?_of_erase found, rfl, rfl⟩
  | leaving gone loop =>
      have ended := leaves_endLoop? controller loop context
      exact ⟨ended.sent, ended.flag⟩
  | shutdown => exact leaves_of_kept rfl rfl fun found => ⟨_, found, rfl, rfl⟩
  | draining => exact leaves_of_kept rfl rfl fun found => by cases found
  | emptying loops =>
      cases loops with
      | nil => exact Leaves.refl controller context
      | cons loop rest => exact leaves_endLoop? controller (some loop) context
  | returned => exact Leaves.refl controller context

theorem leaves_changeFont (controller : Controller)
    (fits : controller.registry.Fits controller.panel) (other : String) (size : Nat)
    (context : String) : Leaves controller (controller.changeFont other size) context := by
  unfold changeFont
  cases found : controller.registry.find? other with
  | none => exact leaves_of_kept rfl rfl fun registered => ⟨_, registered, rfl, rfl⟩
  | some entry =>
      by_cases own : context = other
      · subst own
        exact leaves_changeFace found ⟨entry, found, rfl⟩ rfl
          (controller.panel.face_changeFace_self entry.face _) fun _ => Or.inr ⟨rfl, rfl⟩
      · refine leaves_of_kept rfl rfl ?_
        intro former registered
        exact ⟨former, registered, rfl,
          controller.panel.face_changeFace_other (fits.face_ne own registered found) _⟩

theorem leaves_published (controller : Controller) {result : Sampler × Bool}
    (fits : controller.registry.Fits controller.panel) (distinct : controller.registry.Distinct)
    (told : result.2 = false → result.1.media = controller.media) (context : String) :
    Leaves controller (controller.published result) context := by
  obtain ⟨sampler, changed⟩ := result
  cases changed with
  | false => exact leaves_of_kept rfl (told rfl) fun found => ⟨_, found, rfl, rfl⟩
  | true =>
      have sent := controller.panel.sent_markAll controller.registry.faces
      cases found : controller.registry.find? context with
      | none =>
          refine ⟨sent, ?_⟩
          intro face known
          obtain ⟨entry, registered, _⟩ := faceAt_eq_some_iff.mp known
          have none : controller.registry.find? context = some entry := registered
          rw [found] at none
          cases none
      | some entry =>
          have listed : entry.face ∈ controller.registry.faces :=
            List.mem_map.mpr ⟨(context, entry), Registry.mem_of_find? found, rfl⟩
          have marked := Panel.face_markAll (fits.nodup_faces distinct) listed controller.panel
          exact leaves_changeFace found ⟨entry, found, rfl⟩ sent marked fun _ => Or.inl rfl

theorem leaves_deliver (controller : Controller)
    (fits : controller.registry.Fits controller.panel) (distinct : controller.registry.Distinct)
    (change : MediaChange) (between : List SourceEdit) (context : String) :
    Leaves controller (controller.deliver change between) context := by
  unfold deliver
  refine leaves_published controller fits distinct ?_ context
  intro unpublished
  rw [Sampler.media_sample unpublished, Sampler.media_edits]
  split
  · rw [Sampler.media_sync]
    rfl
  · rfl

theorem leaves_refresh (controller : Controller)
    (fits : controller.registry.Fits controller.panel) (distinct : controller.registry.Distinct)
    (context : String) : Leaves controller controller.refresh.1 context :=
  leaves_published controller fits distinct Sampler.media_sample context

end Controller

end Marquee
