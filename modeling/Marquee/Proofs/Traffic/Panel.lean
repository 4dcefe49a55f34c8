import Marquee.Button.Panel
import Marquee.Proofs.Drawing.Draw

/-!
Which button a face is for and which face a loop draws never changes, whatever is done to a panel.
-/

namespace Marquee.Panel

def contextOf (panel : Panel) (face : Nat) : Option String := (panel.faces[face]?).map Face.context

def faceOf (panel : Panel) (loop : Nat) : Option Nat := (panel.loops[loop]?).map Loop.face

def buttonOf (panel : Panel) (loop : Nat) : Option String :=
  (panel.faceOf loop).bind panel.contextOf

structure Keeps (before after : Panel) : Prop where
  context : ∀ {face context}, before.contextOf face = some context →
    after.contextOf face = some context
  face : ∀ {loop face}, before.faceOf loop = some face → after.faceOf loop = some face

theorem Keeps.refl (panel : Panel) : Keeps panel panel := ⟨id, id⟩

theorem Keeps.trans {first second third : Panel} (earlier : Keeps first second)
    (later : Keeps second third) : Keeps first third :=
  ⟨fun known => later.context (earlier.context known), fun known => later.face (earlier.face known)⟩

theorem face_changeFace_self (panel : Panel) (number : Nat) (change : Face → Face) :
    (panel.changeFace number change).faces[number]? = (panel.faces[number]?).map change := by
  simp [changeFace]

theorem face_changeFace_other (panel : Panel) {number face : Nat} (differ : face ≠ number)
    (change : Face → Face) :
    (panel.changeFace number change).faces[face]? = panel.faces[face]? := by
  simp [changeFace, differ.symm]

theorem keeps_changeFace (panel : Panel) (number : Nat) {change : Face → Face}
    (steady : ∀ face, (change face).context = face.context) :
    Keeps panel (panel.changeFace number change) := by
  refine ⟨?_, id⟩
  intro face context known
  unfold contextOf at known ⊢
  by_cases changed : face = number
  · subst changed
    obtain ⟨found, present, same⟩ := Option.map_eq_some_iff.mp known
    rw [face_changeFace_self, present, Option.map_some, Option.map_some, steady, same]
  · rw [panel.face_changeFace_other changed]
    exact known

theorem keeps_addFace (panel : Panel) (newcomer : Face) :
    Keeps panel (panel.addFace newcomer).1 := by
  refine ⟨?_, id⟩
  intro face context known
  obtain ⟨found, present, same⟩ := Option.map_eq_some_iff.mp known
  have bound := (List.getElem?_eq_some_iff.mp present).1
  simp only [contextOf, addFace, List.getElem?_append_left bound]
  exact known

theorem contextOf_addFace (panel : Panel) (newcomer : Face) :
    (panel.addFace newcomer).1.contextOf (panel.addFace newcomer).2 = some newcomer.context := by
  simp [contextOf, addFace]

theorem keeps_startLoop (panel : Panel) (face period : Nat) :
    Keeps panel (panel.startLoop face period).1 := by
  refine ⟨id, ?_⟩
  intro loop drawn known
  obtain ⟨found, present, same⟩ := Option.map_eq_some_iff.mp known
  have bound := (List.getElem?_eq_some_iff.mp present).1
  simp only [faceOf, startLoop, List.getElem?_append_left bound]
  exact known

theorem faceOf_startLoop (panel : Panel) (face period : Nat) :
    (panel.startLoop face period).1.faceOf (panel.startLoop face period).2 = some face := by
  simp [faceOf, startLoop]

theorem keeps_endLoop? (panel : Panel) (number : Option Nat) :
    Keeps panel (panel.endLoop? number) := by
  cases number with
  | none => exact Keeps.refl panel
  | some number =>
      refine ⟨id, ?_⟩
      intro loop drawn known
      obtain ⟨found, present, same⟩ := Option.map_eq_some_iff.mp known
      simp only [faceOf, endLoop?, endLoop, List.getElem?_modify, present]
      by_cases ended : number = loop
      · simp [ended, same]
      · simp [ended, same]

def markAll (panel : Panel) (faces : List Nat) : Panel :=
  faces.foldl (fun panel face => panel.changeFace face Face.markDirty) panel

theorem keeps_markAll (panel : Panel) (faces : List Nat) : Keeps panel (panel.markAll faces) := by
  induction faces generalizing panel with
  | nil => exact Keeps.refl panel
  | cons face rest ih => exact (keeps_changeFace panel face fun _ => by rfl).trans (ih _)

theorem isLive_markAll (panel : Panel) (faces : List Nat) (loop : Nat) :
    (panel.markAll faces).isLive loop = panel.isLive loop := by
  induction faces generalizing panel with
  | nil => rfl
  | cons face rest ih => exact ih (panel.changeFace face Face.markDirty)

theorem pass_live {panel : Panel} {number : Nat} {loop : Loop} {face : Face} (media : NowPlaying)
    (target : Target) (found : panel.loops[number]? = some loop)
    (drawn : panel.faces[loop.face]? = some face) (live : loop.live = true) :
    let drawn := Scene.draw ⟨face, media⟩ target Scene.undisturbed loop.tick
    panel.pass media target number =
      ⟨panel.faces.set loop.face drawn.scene.face,
        panel.loops.set number { loop with tick := drawn.next, drew := !drawn.sent.isEmpty },
        panel.sent ++ drawn.sent⟩ := by
  simp only [pass, found, drawn, live, if_true]

theorem pass_cases (panel : Panel) (media : NowPlaying) (target : Target) (number : Nat) :
    panel.pass media target number = panel ∨
      ∃ loop face, panel.loops[number]? = some loop ∧ panel.faces[loop.face]? = some face ∧
        loop.live = true ∧
        let drawn := Scene.draw ⟨face, media⟩ target Scene.undisturbed loop.tick
        panel.pass media target number =
          ⟨panel.faces.set loop.face drawn.scene.face,
            panel.loops.set number { loop with tick := drawn.next, drew := !drawn.sent.isEmpty },
            panel.sent ++ drawn.sent⟩ := by
  cases present : panel.loops[number]? with
  | none => exact Or.inl (by simp only [pass, present])
  | some loop =>
      cases drawn : panel.faces[loop.face]? with
      | none => exact Or.inl (by simp only [pass, present, drawn])
      | some face =>
          by_cases live : loop.live = true
          · exact Or.inr ⟨loop, face, rfl, drawn, live, pass_live media target present drawn live⟩
          · exact Or.inl (by simp only [pass, present, drawn, live, Bool.false_eq_true, if_false])

theorem keeps_pass (panel : Panel) (media : NowPlaying) (target : Target) (number : Nat) :
    Keeps panel (panel.pass media target number) := by
  rcases panel.pass_cases media target number with same | ⟨loop, face, found, drawn, _, passed⟩
  · rw [same]
    exact Keeps.refl panel
  · rw [passed]
    have whose := (Scene.draw_context ⟨face, media⟩ target loop.tick).1
    refine ⟨?_, ?_⟩
    · intro other context known
      simp only [contextOf] at known ⊢
      by_cases same : loop.face = other
      · subst same
        have bound := (List.getElem?_eq_some_iff.mp drawn).1
        rw [drawn] at known
        simp only [List.getElem?_set_self bound, Option.map_some, whose]
        exact known
      · rw [List.getElem?_set_ne same]
        exact known
    · intro other context known
      simp only [faceOf] at known ⊢
      by_cases same : number = other
      · subst same
        have bound := (List.getElem?_eq_some_iff.mp found).1
        rw [found] at known
        simp only [List.getElem?_set_self bound, Option.map_some]
        exact known
      · rw [List.getElem?_set_ne same]
        exact known

theorem isLive_pass (panel : Panel) (media : NowPlaying) (target : Target) (number loop : Nat) :
    (panel.pass media target number).isLive loop = panel.isLive loop := by
  rcases panel.pass_cases media target number with same | ⟨running, face, found, _, live, passed⟩
  · rw [same]
  · rw [passed]
    unfold isLive
    by_cases same : number = loop
    · subst same
      have bound := (List.getElem?_eq_some_iff.mp found).1
      simp only [List.getElem?_set_self bound, found, live]
    · rw [List.getElem?_set_ne same]

theorem isLive_startLoop_other (panel : Panel) (face period : Nat) {loop : Nat}
    (differ : loop ≠ (panel.startLoop face period).2) :
    (panel.startLoop face period).1.isLive loop = panel.isLive loop := by
  simp only [startLoop, isLive] at differ ⊢
  by_cases bound : loop < panel.loops.length
  · rw [List.getElem?_append_left bound]
  · have beyond : panel.loops.length < loop := by omega
    rw [List.getElem?_eq_none (by simp only [List.length_append, List.length_singleton]; omega),
      List.getElem?_eq_none (by omega)]

theorem isLive_unstarted (panel : Panel) (face period : Nat) :
    panel.isLive (panel.startLoop face period).2 = false := by
  simp [startLoop, isLive]

theorem sent_pass (panel : Panel) (media : NowPlaying) (target : Target) (number : Nat) :
    ∃ sent, (panel.pass media target number).sent = panel.sent ++ sent ∧
      ∀ call ∈ sent, panel.isLive number = true ∧ call.context? = panel.buttonOf number := by
  rcases panel.pass_cases media target number with same | ⟨loop, face, found, drawn, live, passed⟩
  · rw [same]
    exact ⟨[], (List.append_nil _).symm, nofun⟩
  · rw [passed]
    refine ⟨_, rfl, ?_⟩
    intro call member
    have whose := (Scene.draw_context ⟨face, media⟩ target loop.tick).2 call member
    refine ⟨?_, ?_⟩
    · simp only [isLive, found, live]
    · simp only [buttonOf, faceOf, contextOf, found, drawn, Option.map_some, Option.bind_some,
        whose]

end Marquee.Panel
