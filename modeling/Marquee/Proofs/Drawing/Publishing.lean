import Marquee.Button.Draw
import Marquee.Proofs.Drawing.Flag
import Marquee.Proofs.Drawing.LastImage

/-!
Drawing a button while others publish. The loop of one button takes its draws step by step, and
between any two steps publishers may store new media and raise the button's flag, and anyone may
raise the flag once more or change the width. The main statement is that no artwork is lost: once
the flag is clear and every publisher has raised it, the host has the image that is published.
-/

namespace Marquee

structure Publishing where
  drawing : Drawing
  /-- The publishers that have stored new media and not yet raised the flag. -/
  owing : List Nat := []
  /-- How often the flag was raised. -/
  raises : Nat := 0
deriving DecidableEq, Repr

namespace Publishing

inductive Move where
  /-- The loop goes on by one step; after the last step of a draw, the next draw begins. -/
  | draw
  /-- A publisher stores media. -/
  | store (publisher : Nat) (next : NowPlaying)
  /-- A publisher whose media were new raises the flag. -/
  | announce (publisher : Nat)
  | markDirty
  | setWidth (width : Nat)
deriving DecidableEq, Repr

def start (context : String) (width : Nat) (media : NowPlaying) (tick : Nat) : Publishing :=
  { drawing := ⟨.start tick, ⟨{ context := context, width := width }, media⟩, []⟩ }

def face (state : Publishing) : Face := state.drawing.scene.face

def media (state : Publishing) : NowPlaying := state.drawing.scene.media

def flag (state : Publishing) : ChangeFlag := state.face.flag

def shown (state : Publishing) : Option String :=
  lastImage state.face.context state.drawing.sent

def draw (state : Publishing) (target : Target) : Publishing :=
  match state.drawing.stage with
  | .done next => { state with drawing := { state.drawing with stage := .start next } }
  | _ => { state with drawing := state.drawing.step target Scene.undisturbed }

def changeScene (state : Publishing) (change : Scene → Scene) : Publishing :=
  { state with drawing := { state.drawing with scene := change state.drawing.scene } }

def changeFace (state : Publishing) (change : Face → Face) : Publishing :=
  state.changeScene fun scene => { scene with face := change scene.face }

def raise (state : Publishing) : Publishing :=
  { state.changeFace Face.markDirty with raises := state.raises + 1 }

/-- Media are stored; where they were new, the publisher owes a raise. A publisher that owes one
stores nothing before it has made it. -/
def store (state : Publishing) (publisher : Nat) (next : NowPlaying) : Publishing :=
  if publisher ∈ state.owing then
    state
  else
    let (media, changed) := state.media.replace next
    let stored := state.changeScene fun scene => { scene with media := media }
    if changed then { stored with owing := publisher :: state.owing } else stored

def announce (state : Publishing) (publisher : Nat) : Publishing :=
  if publisher ∈ state.owing then
    { state.raise with owing := state.owing.erase publisher }
  else
    state

def step (state : Publishing) (target : Target) : Move → Publishing
  | .draw => state.draw target
  | .store publisher next => state.store publisher next
  | .announce publisher => state.announce publisher
  | .markDirty => state.raise
  | .setWidth width => state.changeFace (·.setWidth width)

def run (state : Publishing) (target : Target) (moves : List Move) : Publishing :=
  moves.foldl (fun state move => state.step target move) state

/-- The host or the draw has the image that is published, unless the flag was raised since the
generation was read or a raise of it is owed. -/
def Current (state : Publishing) (generation : UInt64) (image : Option String) : Prop :=
  state.flag.raised = generation → state.owing = [] → image = some state.media.image

def Uncleared (state : Publishing) (generation : UInt64) : Prop :=
  state.flag.consumed.toNat < generation.toNat ∧ generation.toNat ≤ state.flag.raised.toNat

def Holds (state : Publishing) : DrawStage → Prop
  | .raisedRead _ _ raised =>
    state.flag.consumed.toNat ≤ raised.toNat ∧ raised.toNat ≤ state.flag.raised.toNat
  | .decided _ _ (some generation) => state.Uncleared generation
  | .mediaRead _ _ (some generation) media =>
    state.Uncleared generation ∧ state.Current generation (some media.image)
  | .pictured _ (some generation) =>
    state.Uncleared generation ∧ state.Current generation state.shown
  | _ => True

structure Ordered (state : Publishing) : Prop where
  counted : state.flag.raised.toNat = state.raises
  behind : state.flag.consumed.toNat ≤ state.flag.raised.toNat
  holds : state.Holds state.drawing.stage
  fresh : 0 < state.raises → state.Current state.flag.consumed state.shown

structure Outside (before after : Publishing) : Prop where
  drawn : after.drawing.stage = before.drawing.stage
  shown : after.shown = before.shown
  consumed : after.flag.consumed = before.flag.consumed
  raised : before.flag.raised.toNat ≤ after.flag.raised.toNat
  settled : after.flag.raised = before.flag.raised → after.owing = [] →
    before.owing = [] ∧ after.media = before.media

theorem Outside.current {before after : Publishing} (outside : Outside before after)
    {generation : UInt64} {image : Option String}
    (bounded : generation.toNat ≤ before.flag.raised.toNat)
    (current : before.Current generation image) : after.Current generation image := by
  intro newest none
  have grows := outside.raised
  -- The generation was known before, so it is the newest only if nothing was raised since.
  have same : after.flag.raised = before.flag.raised := by
    apply UInt64.toNat_inj.mp
    rw [newest] at grows ⊢
    omega
  obtain ⟨noneBefore, media⟩ := outside.settled same none
  rw [media]
  exact current (same.symm.trans newest) noneBefore

theorem Outside.uncleared {before after : Publishing} (outside : Outside before after)
    {generation : UInt64} (uncleared : before.Uncleared generation) :
    after.Uncleared generation := by
  have grows := outside.raised
  obtain ⟨newer, known⟩ := uncleared
  refine ⟨?_, by omega⟩
  rw [outside.consumed]
  exact newer

theorem Outside.holds {before after : Publishing} (outside : Outside before after)
    {stage : DrawStage} (holds : before.Holds stage) : after.Holds stage := by
  have grows := outside.raised
  match stage with
  | .start _ | .sized _ _ | .cleared _ | .done _ => trivial
  | .decided _ _ none | .mediaRead _ _ none _ | .pictured _ none => trivial
  | .raisedRead _ _ raised =>
      obtain ⟨newer, known⟩ := holds
      refine ⟨?_, by omega⟩
      rw [outside.consumed]
      exact newer
  | .decided _ _ (some generation) => exact outside.uncleared holds
  | .mediaRead _ _ (some generation) media =>
      exact ⟨outside.uncleared holds.1, outside.current holds.1.2 holds.2⟩
  | .pictured _ (some generation) =>
      refine ⟨outside.uncleared holds.1, ?_⟩
      rw [outside.shown]
      exact outside.current holds.1.2 holds.2

theorem Ordered.outside {before after : Publishing} (ordered : before.Ordered)
    (outside : Outside before after) (counted : after.flag.raised.toNat = after.raises) :
    after.Ordered := by
  have grows := outside.raised
  have behind := ordered.behind
  refine ⟨counted, ?_, ?_, ?_⟩
  · rw [outside.consumed]
    omega
  · rw [outside.drawn]
    exact outside.holds ordered.holds
  · intro raisedOnce newest
    rw [outside.consumed] at newest
    rw [outside.shown]
    have known := ordered.counted
    have once : 0 < before.raises := by
      rw [newest] at counted grows
      omega
    exact outside.current behind (ordered.fresh once) newest

theorem outside_raise {state : Publishing} (bounded : state.flag.raised.toNat + 1 < 2 ^ 64)
    (owing : List Nat) : Outside state { state.raise with owing := owing } := by
  have raised := ChangeFlag.raised_raise bounded
  refine ⟨rfl, rfl, rfl, ?_, ?_⟩
  · change _ ≤ state.flag.raise.raised.toNat
    omega
  · intro same
    change state.flag.raise.raised = _ at same
    rw [same] at raised
    omega

theorem store_cases (state : Publishing) (publisher : Nat) (next : NowPlaying) :
    state.store publisher next = state ∨
      state.store publisher next =
        { state.changeScene (fun scene => { scene with media := next }) with
          owing := publisher :: state.owing } := by
  unfold store NowPlaying.replace
  by_cases busy : publisher ∈ state.owing
  · rw [if_pos busy]
    exact Or.inl rfl
  · rw [if_neg busy]
    by_cases same : state.media = next
    · simp only [if_pos same, Bool.false_eq_true, if_false]
      exact Or.inl rfl
    · refine Or.inr ?_
      simp only [if_neg same, if_true]

theorem Outside.refl (state : Publishing) : Outside state state :=
  ⟨rfl, rfl, rfl, Nat.le_refl _, fun _ none => ⟨none, rfl⟩⟩

theorem outside_store (state : Publishing) (publisher : Nat) (next : NowPlaying) :
    Outside state (state.store publisher next) := by
  rcases state.store_cases publisher next with same | stored
  · rw [same]
    exact Outside.refl state
  · rw [stored]
    exact ⟨rfl, rfl, rfl, Nat.le_refl _, fun _ none => by cases none⟩

theorem raises_store (state : Publishing) (publisher : Nat) (next : NowPlaying) :
    (state.store publisher next).raises = state.raises := by
  rcases state.store_cases publisher next with same | stored
  · rw [same]
  · rw [stored]
    rfl

theorem Ordered.goOn {state : Publishing} (ordered : state.Ordered) {stage : DrawStage}
    (holds : state.Holds stage) :
    Ordered { state with drawing := { state.drawing with stage := stage } } := by
  exact ⟨ordered.counted, ordered.behind, holds, ordered.fresh⟩

theorem Ordered.sendImage {state : Publishing} (ordered : state.Ordered) (target : Target)
    (tick width : Nat) (redraw : Option UInt64) (media : NowPlaying)
    (holds : state.Holds (.mediaRead tick width redraw media)) :
    Ordered { state with
      drawing := state.drawing.sendImage target Scene.undisturbed tick width redraw media } := by
  cases redraw with
  | none => exact ordered.goOn trivial
  | some generation =>
      obtain ⟨uncleared, current⟩ := holds
      have shown : lastImage state.face.context (state.drawing.sent ++
          [.setImage state.face.context media.image target]) = some media.image :=
        lastImage_image _ _ _ _
      refine ⟨ordered.counted, ordered.behind, ⟨uncleared, ?_⟩, ?_⟩
      · intro newest none
        exact shown.trans (current newest none)
      · intro _ newest
        -- The generation is not cleared yet, so the flag is still up.
        have raised : state.flag.raised = state.flag.consumed := newest
        have behind := uncleared.1
        have known := uncleared.2
        rw [raised] at known
        omega

theorem Ordered.clear {state : Publishing} (ordered : state.Ordered) (frame : Scroll.Frame)
    (redraw : Option UInt64) (holds : state.Holds (.pictured frame redraw)) :
    Ordered { state with drawing := state.drawing.clear frame redraw } := by
  cases redraw with
  | none => exact ordered.goOn trivial
  | some generation =>
      obtain ⟨uncleared, current⟩ := holds
      unfold Drawing.clear
      by_cases empty : frame.visible.isEmpty
      · simp only [empty, if_true]
        exact ordered.goOn trivial
      · simp only [empty, Bool.false_eq_true, if_false]
        have cleared := ChangeFlag.consumed_consume (Nat.le_of_lt uncleared.1)
        refine ⟨ordered.counted, ?_, trivial, ?_⟩
        · change (state.flag.consume generation).consumed.toNat ≤ state.flag.raised.toNat
          rw [cleared]
          exact uncleared.2
        · intro _ newest none
          have raised : state.flag.raised = (state.flag.consume generation).consumed := newest
          exact current (raised.trans cleared) none

theorem Ordered.sendTitle {state : Publishing} (ordered : state.Ordered) (target : Target)
    (frame : Scroll.Frame) :
    Ordered { state with drawing := state.drawing.sendTitle target Scene.undisturbed frame } := by
  have shown : lastImage state.face.context (state.drawing.sent ++
      [.setTitle state.face.context frame.visible target]) = state.shown :=
    lastImage_title _ _ _ _ _
  refine ⟨ordered.counted, ordered.behind, trivial, ?_⟩
  intro raised newest none
  exact shown.trans (ordered.fresh raised newest none)

/-- Whether a generation is pending is decided by two readings of the flag, between which only
others touch it, and they clear nothing. -/
theorem holds_decided {state : Publishing} {tick width : Nat} {raised : UInt64}
    (holds : state.Holds (.raisedRead tick width raised)) :
    state.Holds (.decided tick width (state.flag.pendingAt raised)) := by
  obtain ⟨newer, known⟩ := holds
  unfold ChangeFlag.pendingAt
  by_cases differ : raised = state.flag.consumed
  · rw [if_pos differ]
    trivial
  · rw [if_neg differ]
    refine ⟨?_, known⟩
    have unequal : raised.toNat ≠ state.flag.consumed.toNat := by
      intro same
      exact differ (UInt64.toNat_inj.mp same)
    omega

theorem Ordered.draw {state : Publishing} (ordered : state.Ordered) (target : Target) :
    (state.draw target).Ordered := by
  have holds := ordered.holds
  unfold Publishing.draw Drawing.step
  cases stage : state.drawing.stage with
  | start tick =>
      simp only
      split
      · exact ordered.goOn trivial
      · exact ordered.goOn trivial
  | sized tick width => exact ordered.goOn ⟨ordered.behind, Nat.le_refl _⟩
  | raisedRead tick width raised =>
      rw [stage] at holds
      exact ordered.goOn (holds_decided holds)
  | decided tick width redraw =>
      rw [stage] at holds
      apply ordered.goOn
      cases redraw with
      | none => trivial
      | some generation => exact ⟨holds, fun _ _ => rfl⟩
  | mediaRead tick width redraw media =>
      rw [stage] at holds
      exact ordered.sendImage target tick width redraw media holds
  | pictured frame redraw =>
      rw [stage] at holds
      exact ordered.clear frame redraw holds
  | cleared frame => exact ordered.sendTitle target frame
  | done next => exact ordered.goOn trivial

theorem raises_draw (state : Publishing) (target : Target) :
    (state.draw target).raises = state.raises := by
  unfold Publishing.draw
  split <;> rfl

theorem raises_step (state : Publishing) (target : Target) (move : Move) :
    state.raises ≤ (state.step target move).raises := by
  cases move with
  | draw => exact Nat.le_of_eq (raises_draw state target).symm
  | store publisher next => exact Nat.le_of_eq (raises_store state publisher next).symm
  | announce publisher =>
      simp only [step, announce]
      split
      · exact Nat.le_succ _
      · exact Nat.le_refl _
  | markDirty => exact Nat.le_succ _
  | setWidth width => exact Nat.le_refl _

theorem raises_run (state : Publishing) (target : Target) (moves : List Move) :
    state.raises ≤ (state.run target moves).raises := by
  induction moves generalizing state with
  | nil => exact Nat.le_refl _
  | cons move rest ih => exact Nat.le_trans (raises_step state target move) (ih _)

theorem Ordered.raise {state : Publishing} (ordered : state.Ordered)
    (bounded : state.raises + 1 < 2 ^ 64) (owing : List Nat) :
    Ordered { state.raise with owing := owing } := by
  have counted := ordered.counted
  have roomLeft : state.flag.raised.toNat + 1 < 2 ^ 64 := by omega
  apply ordered.outside (outside_raise roomLeft owing)
  change state.flag.raise.raised.toNat = state.raises + 1
  rw [ChangeFlag.raised_raise roomLeft, counted]

theorem Ordered.step {state : Publishing} (ordered : state.Ordered) (target : Target) (move : Move)
    (bounded : (state.step target move).raises < 2 ^ 64) : (state.step target move).Ordered := by
  cases move with
  | draw => exact ordered.draw target
  | store publisher next =>
      apply ordered.outside (outside_store state publisher next)
      rw [raises_store]
      have counted := ordered.counted
      rcases state.store_cases publisher next with same | stored
      · rw [same]
        exact counted
      · rw [stored]
        exact counted
  | announce publisher =>
      simp only [Publishing.step, announce] at bounded ⊢
      by_cases owes : publisher ∈ state.owing
      · rw [if_pos owes] at bounded ⊢
        exact ordered.raise bounded _
      · rw [if_neg owes]
        exact ordered
  | markDirty => exact ordered.raise bounded state.owing
  | setWidth width =>
      have outside : Outside state (state.changeFace (·.setWidth width)) :=
        ⟨rfl, rfl, rfl, Nat.le_refl _, fun _ none => ⟨none, rfl⟩⟩
      exact ordered.outside outside ordered.counted

theorem Ordered.run {state : Publishing} (ordered : state.Ordered) (target : Target)
    (moves : List Move) (bounded : (state.run target moves).raises < 2 ^ 64) :
    (state.run target moves).Ordered := by
  induction moves generalizing state with
  | nil => exact ordered
  | cons move rest ih =>
      have within : (state.step target move).raises < 2 ^ 64 :=
        Nat.lt_of_le_of_lt (raises_run _ target rest) bounded
      exact ih (ordered.step target move within) bounded

theorem start_ordered (context : String) (width : Nat) (media : NowPlaying) (tick : Nat) :
    (start context width media tick).Ordered := by
  refine ⟨rfl, Nat.le_refl _, trivial, ?_⟩
  intro raised
  exact absurd raised (Nat.lt_irrefl 0)

/-- No artwork is lost: however draws and publishers interleave, once the flag was raised and is
clear again and no publisher still has to raise it, the host was last handed the image that is
published now. -/
theorem shown_eq_published (context : String) (width : Nat) (media : NowPlaying) (tick : Nat)
    (target : Target) (moves : List Move) :
    let state := (start context width media tick).run target moves
    state.raises < 2 ^ 64 → 0 < state.raises → state.flag.isSet = false → state.owing = [] →
      state.shown = some state.media.image := by
  intro state bounded raised clear none
  have ordered : state.Ordered := (start_ordered context width media tick).run target moves bounded
  exact ordered.fresh raised ((ChangeFlag.isSet_eq_false_iff _).mp clear) none

def race : List Move :=
  .markDirty :: List.replicate 3 .draw ++ [.store 7 ⟨"Refrain", "cover"⟩, .draw, .announce 7] ++
    List.replicate 11 .draw

theorem shown_after_race :
    let state := (start "key" 3 ⟨"Song", "sleeve"⟩ 0).run .both race
    state.raises < 2 ^ 64 ∧ 0 < state.raises ∧ state.flag.isSet = false ∧ state.owing = [] ∧
      state.shown = some state.media.image := by
  have bounded : ((start "key" 3 ⟨"Song", "sleeve"⟩ 0).run .both race).raises < 2 ^ 64 := by
    decide +kernel
  have raised : 0 < ((start "key" 3 ⟨"Song", "sleeve"⟩ 0).run .both race).raises := by
    decide +kernel
  have clear : ((start "key" 3 ⟨"Song", "sleeve"⟩ 0).run .both race).flag.isSet = false := by
    decide +kernel
  have none : ((start "key" 3 ⟨"Song", "sleeve"⟩ 0).run .both race).owing = [] := by
    decide +kernel
  exact ⟨bounded, raised, clear, none,
    shown_eq_published "key" 3 ⟨"Song", "sleeve"⟩ 0 .both race bounded raised clear none⟩

end Publishing

end Marquee
