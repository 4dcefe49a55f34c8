import Marquee.Button.Draw
import Marquee.Proofs.Drawing.Flag
import Marquee.Proofs.Drawing.LastImage

/-!
What a whole draw does when nothing else touches the button: without room it does nothing; with no
generation pending it sends the next window of the title; and with one pending it starts the title
over, sends the image first, and clears the generation if it shows anything.
-/

namespace Marquee

namespace Scroll

theorem visible_nonempty {title : String} {width : Nat} (titled : title ≠ "") (room : width ≠ 0)
    (tick : Nat) : (advance title width tick).visible.isEmpty = false := by
  have filled : window title.toList width (start title.toList width tick) ≠ [] := by
    intro empty
    have full := length_window title.toList width tick
    rw [empty] at full
    exact room full.symm
  have some : title.isEmpty = false := String.isEmpty_eq_false_iff.mpr titled
  unfold advance
  simp only [some, Bool.false_or, beq_iff_eq, room, if_false]
  rw [String.isEmpty_eq_false_iff, Ne, String.ofList_eq_empty_iff]
  exact filled

end Scroll

namespace Scene

theorem draw_blank (scene : Scene) (target : Target) (tick : Nat) (blank : scene.face.width = 0) :
    scene.draw target undisturbed tick = ⟨tick, scene, []⟩ := by
  simp [draw, Drawing.run, Drawing.step, blank]

theorem draw_steady (scene : Scene) (target : Target) (tick : Nat) (room : scene.face.width ≠ 0)
    (steady : scene.face.flag.pending = none) :
    let frame := Scroll.advance scene.media.title scene.face.width tick
    scene.draw target undisturbed tick =
      ⟨frame.next, scene, [.setTitle scene.face.context frame.visible target]⟩ := by
  unfold ChangeFlag.pending at steady
  simp [draw, Drawing.run, Drawing.step, room, steady, Drawing.sendImage, Drawing.clear,
    Drawing.sendTitle, undisturbed]

theorem draw_pending (scene : Scene) (target : Target) (tick : Nat) (room : scene.face.width ≠ 0)
    {generation : UInt64} (pending : scene.face.flag.pending = some generation) :
    let frame := Scroll.advance scene.media.title scene.face.width 0
    let face := scene.face
    let cleared := { face with flag := face.flag.consume generation }
    scene.draw target undisturbed tick =
      ⟨frame.next, if frame.visible.isEmpty then scene else ⟨cleared, scene.media⟩,
        [.setImage face.context scene.media.image target,
          .setTitle face.context frame.visible target]⟩ := by
  unfold ChangeFlag.pending at pending
  by_cases empty : (Scroll.advance scene.media.title scene.face.width 0).visible.isEmpty
  all_goals
    simp [draw, Drawing.run, Drawing.step, room, pending, Drawing.sendImage, Drawing.clear, empty,
      Drawing.sendTitle, undisturbed]

theorem draw_context (scene : Scene) (target : Target) (tick : Nat) :
    let drawn := scene.draw target undisturbed tick
    drawn.scene.face.context = scene.face.context ∧
      ∀ call ∈ drawn.sent, call.context? = some scene.face.context := by
  by_cases room : scene.face.width = 0
  · rw [draw_blank scene target tick room]
    simp
  · cases pending : scene.face.flag.pending with
    | none =>
        rw [draw_steady scene target tick room pending]
        simp [HostCall.context?]
    | some generation =>
        rw [draw_pending scene target tick room pending]
        refine ⟨?_, by simp [HostCall.context?]⟩
        simp only
        split <;> rfl

theorem draw_width (scene : Scene) (target : Target) (tick : Nat) :
    (scene.draw target undisturbed tick).scene.face.width = scene.face.width := by
  by_cases room : scene.face.width = 0
  · rw [draw_blank scene target tick room]
  · cases pending : scene.face.flag.pending with
    | none => rw [draw_steady scene target tick room pending]
    | some generation =>
        rw [draw_pending scene target tick room pending]
        simp only
        split <;> rfl

theorem draw_image (scene : Scene) (target : Target) (tick : Nat) (context : String)
    (calls : List HostCall) :
    let drawn := scene.draw target undisturbed tick
    lastImage context (calls ++ drawn.sent) = lastImage context calls ∨
      lastImage context (calls ++ drawn.sent) = some scene.media.image := by
  by_cases room : scene.face.width = 0
  · rw [draw_blank scene target tick room]
    exact Or.inl (by rw [List.append_nil])
  · cases pending : scene.face.flag.pending with
    | none =>
        rw [draw_steady scene target tick room pending]
        exact Or.inl (lastImage_title _ _ _ _ _)
    | some generation =>
        rw [draw_pending scene target tick room pending]
        simp only [lastImage_image_title]
        by_cases own : scene.face.context = context
        · rw [own]
          exact Or.inr (lastImage_image _ _ _ _)
        · exact Or.inl (lastImage_image_other own _ _ _)

theorem draw_flag (scene : Scene) (target : Target) (tick : Nat) (calls : List HostCall) :
    let drawn := scene.draw target undisturbed tick
    drawn.scene.face.flag = scene.face.flag ∨
      drawn.scene.face.flag = scene.face.flag.consume scene.face.flag.raised ∧
        lastImage scene.face.context (calls ++ drawn.sent) = some scene.media.image := by
  by_cases room : scene.face.width = 0
  · rw [draw_blank scene target tick room]
    exact Or.inl rfl
  · cases pending : scene.face.flag.pending with
    | none =>
        rw [draw_steady scene target tick room pending]
        exact Or.inl rfl
    | some generation =>
        have newest := ChangeFlag.pending_eq_some pending
        rw [draw_pending scene target tick room pending]
        simp only [lastImage_image_title, lastImage_image, and_true]
        split
        · exact Or.inl rfl
        · rw [newest]
          exact Or.inr rfl

/-- A draw keeps its button right: it clears the flag only after it has handed over the image. -/
theorem settles_draw (scene : Scene) (target : Target) (tick : Nat) {calls : List HostCall}
    {count : Nat} (settles : scene.face.flag.Settles count (lastImage scene.face.context calls)
      scene.media.image) :
    let drawn := scene.draw target undisturbed tick
    drawn.scene.face.flag.Settles count (lastImage scene.face.context (calls ++ drawn.sent))
      scene.media.image := by
  intro drawn
  rcases scene.draw_flag target tick calls with same | ⟨cleared, handed⟩
  · rw [same]
    exact settles.later (Nat.le_refl count) (scene.draw_image target tick scene.face.context calls)
  · rw [cleared]
    exact ChangeFlag.settles_consume settles.behind settles.counted handed

theorem draw_clears (scene : Scene) (target : Target) (tick : Nat) (room : scene.face.width ≠ 0)
    (titled : scene.media.title ≠ "")
    (behind : scene.face.flag.consumed.toNat ≤ scene.face.flag.raised.toNat) :
    (scene.draw target undisturbed tick).scene.face.isDirty = false := by
  unfold Face.isDirty
  cases pending : scene.face.flag.pending with
  | none =>
      rw [draw_steady scene target tick room pending]
      unfold ChangeFlag.isSet
      rw [pending]
      rfl
  | some generation =>
      rw [draw_pending scene target tick room pending]
      simp only [Scroll.visible_nonempty titled room 0, Bool.false_eq_true, if_false]
      rw [ChangeFlag.pending_eq_some pending]
      exact ChangeFlag.isSet_consume behind

end Scene

end Marquee
