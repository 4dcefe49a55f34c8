import Marquee.Proofs.Drawing.Draw

/-!
A draw and what the host does to the button from inside the calls of that draw. The flag may be
raised, the width set and the media replaced, any number of times and in each call. The draw has
read all it needs before its first call and clears one generation only, so it sends what it would
have sent without, and afterwards all that was done inside is still there.
-/

namespace Marquee

inductive Touch where
  | markDirty
  | setWidth (width : Nat)
  | replaceMedia (next : NowPlaying)
deriving DecidableEq, Repr

namespace Touch

def apply (scene : Scene) : Touch → Scene
  | markDirty => { scene with face := scene.face.markDirty }
  | setWidth width => { scene with face := scene.face.setWidth width }
  | replaceMedia next => { scene with media := (scene.media.replace next).1 }

def isRaise : Touch → Bool
  | markDirty => true
  | _ => false

end Touch

namespace ChangeFlag

/-- The states of a flag that was raised `count` times. A draw clears a generation that was raised
before, though not always the newest one. -/
inductive Reached : Nat → ChangeFlag → Prop
  | fresh : Reached 0 {}
  | raise {count : Nat} {flag : ChangeFlag} : Reached count flag → Reached (count + 1) flag.raise
  | consume {count : Nat} {flag : ChangeFlag} (generation : UInt64) :
      Reached count flag → generation.toNat ≤ count → Reached count (flag.consume generation)

theorem Reached.bounds {count : Nat} {flag : ChangeFlag} (reached : Reached count flag)
    (bounded : count < 2 ^ 64) : flag.raised.toNat = count ∧ flag.consumed.toNat ≤ count := by
  induction reached with
  | fresh => exact ⟨rfl, Nat.le_refl 0⟩
  | raise earlier ih =>
      obtain ⟨raised, consumed⟩ := ih (by omega)
      rw [raised_raise (by omega), raised]
      exact ⟨rfl, Nat.le_succ_of_le consumed⟩
  | consume generation earlier known ih =>
      obtain ⟨raised, consumed⟩ := ih bounded
      refine ⟨raised, ?_⟩
      change (if _ ≤ generation then generation else _).toNat ≤ _
      split
      · exact known
      · exact consumed

theorem Reached.isSet_iff {count : Nat} {flag : ChangeFlag} (reached : Reached count flag)
    (bounded : count < 2 ^ 64) : flag.isSet = true ↔ flag.consumed.toNat < count := by
  obtain ⟨raised, behind⟩ := reached.bounds bounded
  rw [ChangeFlag.isSet_iff, Ne, ← UInt64.toNat_inj, raised]
  omega

end ChangeFlag

theorem Scroll.visible_empty_iff {title : String} {width : Nat} (room : width ≠ 0) (tick : Nat) :
    (advance title width tick).visible.isEmpty = true ↔ title = "" := by
  constructor
  · intro empty
    by_cases titled : title = ""
    · exact titled
    · rw [visible_nonempty titled room] at empty
      cases empty
  · rintro rfl
    rfl

namespace Scene

def touched (scene : Scene) (touches : List Touch) : Scene := touches.foldl Touch.apply scene

def touching (touches : HostCall → List Touch) (call : HostCall) (scene : Scene) : Scene :=
  scene.touched (touches call)

theorem touched_append (scene : Scene) (first second : List Touch) :
    scene.touched (first ++ second) = (scene.touched first).touched second :=
  List.foldl_append

@[simp] theorem context_touched (scene : Scene) (touches : List Touch) :
    (scene.touched touches).face.context = scene.face.context := by
  induction touches generalizing scene with
  | nil => rfl
  | cons touch rest ih =>
      rw [touched, List.foldl_cons]
      refine (ih _).trans ?_
      cases touch <;> rfl

theorem consumed_touched (scene : Scene) (touches : List Touch) :
    (scene.touched touches).face.flag.consumed = scene.face.flag.consumed := by
  induction touches generalizing scene with
  | nil => rfl
  | cons touch rest ih =>
      rw [touched, List.foldl_cons]
      refine (ih _).trans ?_
      cases touch <;> rfl

theorem reached_touched {scene : Scene} {count : Nat} (reached : scene.face.flag.Reached count)
    (touches : List Touch) :
    (scene.touched touches).face.flag.Reached (count + touches.countP Touch.isRaise) := by
  induction touches generalizing scene count with
  | nil => exact reached
  | cons touch rest ih =>
      rw [touched, List.foldl_cons, List.countP_cons]
      cases touch with
      | markDirty =>
          rw [Nat.add_comm (rest.countP _), ← Nat.add_assoc]
          exact ih reached.raise
      | setWidth width => exact ih reached
      | replaceMedia next => exact ih reached

def clear (scene : Scene) (generation : UInt64) : Scene :=
  { scene with face := { scene.face with flag := scene.face.flag.consume generation } }

theorem touched_clear (scene : Scene) (generation : UInt64) (touches : List Touch) :
    (scene.clear generation).touched touches = (scene.touched touches).clear generation := by
  induction touches generalizing scene with
  | nil => rfl
  | cons touch rest ih =>
      have once : Touch.apply (scene.clear generation) touch =
          (Touch.apply scene touch).clear generation := by
        cases touch <;> rfl
      rw [touched, touched, List.foldl_cons, List.foldl_cons, once]
      exact ih _

section Draws

variable (scene : Scene) (target : Target) (touches : HostCall → List Touch) (tick : Nat)

theorem touching_blank (blank : scene.face.width = 0) :
    scene.draw target (touching touches) tick = ⟨tick, scene, []⟩ := by
  simp [draw, Drawing.run, Drawing.step, blank]

theorem touching_steady (room : scene.face.width ≠ 0) (steady : scene.face.flag.pending = none) :
    let alone := scene.draw target undisturbed tick
    scene.draw target (touching touches) tick =
      ⟨alone.next, scene.touched (alone.sent.flatMap touches), alone.sent⟩ := by
  rw [draw_steady scene target tick room steady]
  unfold ChangeFlag.pending at steady
  simp [draw, Drawing.run, Drawing.step, room, steady, Drawing.sendImage, Drawing.clear,
    Drawing.sendTitle, touching]

/-- The generation is cleared between the two calls, and it makes no difference that this comes
after what was done in the first one. -/
theorem touching_pending (room : scene.face.width ≠ 0) {generation : UInt64}
    (pending : scene.face.flag.pending = some generation) :
    let alone := scene.draw target undisturbed tick
    let after := scene.touched (alone.sent.flatMap touches)
    let frame := Scroll.advance scene.media.title scene.face.width 0
    scene.draw target (touching touches) tick =
      ⟨alone.next, if frame.visible.isEmpty then after else after.clear generation,
        alone.sent⟩ := by
  rw [draw_pending scene target tick room pending]
  unfold ChangeFlag.pending at pending
  by_cases empty : (Scroll.advance scene.media.title scene.face.width 0).visible.isEmpty
  · simp [draw, Drawing.run, Drawing.step, room, pending, Drawing.sendImage, Drawing.clear,
      empty, Drawing.sendTitle, touching, touched_append]
  · have settled := touched_clear
      (scene.touched (touches (.setImage scene.face.context scene.media.image target))) generation
      (touches (.setTitle scene.face.context
        (Scroll.advance scene.media.title scene.face.width 0).visible target))
    simpa [draw, Drawing.run, Drawing.step, room, pending, Drawing.sendImage, Drawing.clear,
      empty, Drawing.sendTitle, touching, touched_append, clear] using settled

/-- All that was done inside is kept, and the newest generation that there was before the draw is
cleared if the draw found the flag set, room and a title. -/
theorem touching_cases :
    let alone := scene.draw target undisturbed tick
    let drawn := scene.draw target (touching touches) tick
    let after := scene.touched (alone.sent.flatMap touches)
    (drawn = ⟨alone.next, after, alone.sent⟩ ∧
      (scene.face.isDirty = true → scene.face.width = 0 ∨ scene.media.title = "")) ∨
    (drawn = ⟨alone.next, after.clear scene.face.flag.raised, alone.sent⟩ ∧
      scene.face.width ≠ 0 ∧ scene.media.title ≠ "" ∧ scene.face.isDirty = true) := by
  intro alone drawn after
  by_cases room : scene.face.width = 0
  · have kept : alone = ⟨tick, scene, []⟩ := draw_blank scene target tick room
    refine Or.inl ⟨?_, fun _ => Or.inl room⟩
    simp only [drawn, after, kept, List.flatMap_nil]
    exact touching_blank scene target touches tick room
  · simp only [Face.isDirty, ChangeFlag.isSet]
    cases pending : scene.face.flag.pending with
    | none => exact Or.inl ⟨touching_steady scene target touches tick room pending, nofun⟩
    | some generation =>
        have drew := touching_pending scene target touches tick room pending
        simp only [Scroll.visible_empty_iff room] at drew
        rw [ChangeFlag.pending_eq_some pending] at drew
        by_cases titled : scene.media.title = ""
        · rw [if_pos titled] at drew
          exact Or.inl ⟨drew, fun _ => Or.inr titled⟩
        · rw [if_neg titled] at drew
          exact Or.inr ⟨drew, room, titled, rfl⟩

end Draws

theorem exists_raise_iff (touches : List Touch) :
    .markDirty ∈ touches ↔ 0 < touches.countP Touch.isRaise := by
  rw [List.countP_pos_iff]
  constructor
  · intro member
    exact ⟨.markDirty, member, rfl⟩
  · rintro ⟨touch, member, raises⟩
    cases touch with
    | markDirty => exact member
    | setWidth width => cases raises
    | replaceMedia next => cases raises

/-- A draw is not disturbed by what the host does inside the calls it makes. It sends the same calls
and leaves the same offset; width and media are afterwards what was made of them inside; and the
flag is set afterwards if it was raised inside, or if it was set before and the draw had no room or
no title to show. -/
theorem draw_touching (scene : Scene) (target : Target) (touches : HostCall → List Touch)
    (tick count : Nat) :
    let alone := scene.draw target undisturbed tick
    let drawn := scene.draw target (touching touches) tick
    let inside := alone.sent.flatMap touches
    scene.face.flag.Reached count → count + inside.countP Touch.isRaise < 2 ^ 64 →
      drawn.sent = alone.sent ∧ drawn.next = alone.next ∧
      drawn.scene.face.width = (scene.touched inside).face.width ∧
      drawn.scene.media = (scene.touched inside).media ∧
      (drawn.scene.face.isDirty = true ↔ .markDirty ∈ inside ∨
        scene.face.isDirty = true ∧ (scene.face.width = 0 ∨ scene.media.title = "")) ∧
      drawn.scene.face.flag.Reached (count + inside.countP Touch.isRaise) := by
  intro alone drawn inside reached bounded
  have later := reached_touched reached inside
  have before : scene.face.isDirty = true ↔ _ := reached.isSet_iff (by omega)
  obtain ⟨newest, behind⟩ := reached.bounds (by omega)
  rw [exists_raise_iff]
  rcases scene.touching_cases target touches tick with
    ⟨same, blank⟩ | ⟨same, room, titled, dirty⟩
  · have after : (scene.touched inside).face.isDirty = true ↔ _ := later.isSet_iff bounded
    rw [consumed_touched] at after
    have drew : drawn = ⟨alone.next, scene.touched inside, alone.sent⟩ := same
    rw [drew]
    refine ⟨rfl, rfl, rfl, rfl, ?_, later⟩
    rw [after]
    constructor
    · intro pending
      by_cases stale : scene.face.flag.consumed.toNat < count
      · exact Or.inr ⟨before.mpr stale, blank (before.mpr stale)⟩
      · exact Or.inl (by omega)
    · rintro (raised | ⟨dirty, _⟩)
      · omega
      · have stale := before.mp dirty
        omega
  · have drew : drawn =
        ⟨alone.next, (scene.touched inside).clear scene.face.flag.raised, alone.sent⟩ := same
    have reached := later.consume scene.face.flag.raised (by omega)
    have newer : (scene.touched inside).face.flag.consumed.toNat ≤
        scene.face.flag.raised.toNat := by
      rw [consumed_touched]
      omega
    have cleared := ChangeFlag.consumed_consume newer
    have after := reached.isSet_iff bounded
    rw [cleared, newest] at after
    rw [drew]
    refine ⟨rfl, rfl, rfl, rfl, after.trans ?_, reached⟩
    simp only [room, titled, or_self, and_false, or_false]
    omega

def restless : HostCall → List Touch
  | .setImage _ _ _ => [.markDirty, .setWidth 0, .replaceMedia .silent]
  | .setTitle _ _ _ => [.setWidth 7]
  | .logMessage _ => []

theorem draw_touching_restless :
    let scene : Scene := ⟨⟨"key", 4, ⟨2, 1⟩⟩, ⟨"Song", "cover"⟩⟩
    let drawn := scene.draw .both (touching restless) 5
    let inside := (scene.draw .both undisturbed 5).sent.flatMap restless
    scene.face.flag.Reached 2 ∧ 2 + inside.countP Touch.isRaise < 2 ^ 64 ∧
      drawn.sent = [.setImage "key" "cover" .both, .setTitle "key" "    " .both] ∧
      drawn.next = 1 ∧ drawn.scene.face.width = 7 ∧ drawn.scene.media = .silent ∧
      drawn.scene.face.isDirty = true := by
  intro scene drawn inside
  have reached : scene.face.flag.Reached 2 := .consume 1 (.raise (.raise .fresh)) (by decide)
  have bounded : 2 + inside.countP Touch.isRaise < 2 ^ 64 := by decide +kernel
  obtain ⟨sent, next, width, media, dirty, _⟩ :=
    draw_touching scene .both restless 5 2 reached bounded
  have raised : Touch.markDirty ∈ inside := by decide +kernel
  exact ⟨reached, bounded, sent.trans (by decide +kernel), next.trans (by decide +kernel),
    width.trans (by decide +kernel), media.trans (by decide +kernel), dirty.mpr (Or.inl raised)⟩

end Scene

end Marquee
