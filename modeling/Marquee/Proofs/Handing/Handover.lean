import Marquee.Button.Handover
import Marquee.Proofs.Drawing.Flag
import Marquee.Proofs.Handing.Custody

/-!
A button whose loops are handed about in any order. No loop is lost or ended twice: each one that
was ever started is installed, held or over, and only the first two are live. What the animator
hands back, and its phase, follow from the calls made to it before; and nothing is sent but by the
loops as they draw.
-/

namespace Marquee.Handover

inductive Move where
  | spawn (period : Nat)
  | take
  | put
  | stop
  | dirty
  | media (media : NowPlaying)
  | width (width : Nat)
  /-- A further pass of a loop. -/
  | pass (loop : Nat)
deriving DecidableEq, Repr

def step (state : Handover) : Move → Handover
  | .spawn period => (state.spawn period).1
  | .take => state.take.1
  | .put => state.put.1
  | .stop => state.stop
  | .dirty => state.changeFace Face.markDirty
  | .media media => (state.replaceMedia media).1
  | .width width => state.changeFace (·.setWidth width)
  | .pass loop => { state with panel := state.panel.pass state.media state.target loop }

def run (state : Handover) (moves : List Move) : Handover := moves.foldl step state

inductive Call where
  | install (loop : Nat) (displaced : Option Nat)
  | take (taken : Option Nat)
  | stop (stopped : Option Nat)
deriving DecidableEq, Repr

def Call.back : Call → Option Nat
  | .install _ displaced => displaced
  | .take taken => taken
  | .stop stopped => stopped

def Call.isSwitch : Call → Bool
  | .install _ _ => true
  | .take _ => false
  | .stop _ => true

def callOf (state : Handover) : Move → Option Call
  | .spawn _ =>
    let loop := state.panel.loops.length
    some (.install loop (state.animator.install loop).2)
  | .take => some (.take state.animator.take.2)
  | .put => state.held.map fun loop => .install loop (state.animator.install loop).2
  | .stop => some (.stop state.animator.stop.2)
  | _ => none

/-- The loop that a move lets go of: one that the animator handed back and nobody holds, or one that
was held and has to make room. -/
def letGo (state : Handover) (move : Move) : Option Nat :=
  match move with
  | .take => state.held
  | _ => (state.callOf move).bind Call.back

def calls (state : Handover) : List Move → List Call
  | [] => []
  | move :: rest => (state.callOf move).toList ++ (state.step move).calls rest

def ended (state : Handover) : List Move → List Nat
  | [] => []
  | move :: rest => (state.letGo move).toList ++ (state.step move).ended rest

def Move.isSpawn : Move → Bool
  | .spawn _ => true
  | _ => false

def installed (calls : List Call) : Option Nat :=
  match calls.getLast? with
  | some (.install loop _) => some loop
  | _ => none

def lastSwitch (calls : List Call) : Option Call := (calls.filter Call.isSwitch).getLast?

def drawn (face : Face) (media : NowPlaying) (target : Target) (offset : Nat) : List HostCall :=
  if face.width = 0 then []
  else if face.isDirty then
    [.setImage face.context media.image target,
      .setTitle face.context (Scroll.advance media.title face.width 0).visible target]
  else [.setTitle face.context (Scroll.advance media.title face.width offset).visible target]

/-- What is sent in a move: a loop draws for the first time from offset zero as it is spawned, and
goes on where it was when it makes a pass, if it is still live. -/
def sentIn (state : Handover) : Move → List HostCall
  | .spawn _ => drawn state.face state.media state.target 0
  | .pass loop =>
    match state.panel.loops[loop]? with
    | some found =>
      if found.live then drawn state.face state.media state.target found.tick else []
    | none => []
  | _ => []

section Custody

variable {state : Handover} {ended : List Nat}

def owned (state : Handover) : List Nat := state.animator.task.toList ++ state.held.toList

theorem custody_install {loop : Nat} (custody : state.panel.Custody (loop :: state.owned) ended) :
    (state.install loop).1.panel.Custody (state.install loop).1.owned
      (ended ++ state.animator.task.toList) := by
  have moved : (loop :: state.owned).Perm
      (state.animator.task.toList ++ loop :: state.held.toList) := List.perm_middle.symm
  apply Panel.Custody.endLoop?
  exact custody.perm moved

theorem custody_step (custody : state.panel.Custody state.owned ended) (move : Move) :
    (state.step move).panel.Custody (state.step move).owned
      (ended ++ (state.letGo move).toList) := by
  have kept : state.panel.Custody state.owned (ended ++ (none : Option Nat).toList) := by
    rw [Option.toList_none, List.append_nil]
    exact custody
  cases move with
  | spawn period =>
      apply custody_install
      exact (custody.startLoop 0 period).pass state.media state.target state.panel.loops.length
  | take =>
      have turned : state.panel.Custody (state.held.toList ++ state.animator.task.toList) ended :=
        custody.perm List.perm_append_comm
      exact turned.endLoop?
  | put =>
      cases held : state.held with
      | none => simpa [step, put, letGo, callOf, held] using kept
      | some loop =>
          -- Between its two places the loop is in neither, as one that was just started.
          have free : ({ state with held := none } : Handover).panel.Custody
              (loop :: ({ state with held := none } : Handover).owned) ended := by
            apply custody.perm
            simp only [owned, held, Option.toList_some, Option.toList_none, List.append_nil]
            exact List.perm_append_singleton loop state.animator.task.toList
          have placed := custody_install free
          simpa [step, put, letGo, callOf, held, Call.back, Animator.install] using placed
  | stop => exact custody.endLoop?
  | dirty => exact kept.changeFace 0 Face.markDirty
  | media media => exact kept
  | width width => exact kept.changeFace 0 (·.setWidth width)
  | pass loop => exact kept.pass state.media state.target loop

theorem length_loops_step (state : Handover) (move : Move) :
    (state.step move).panel.loops.length = state.panel.loops.length + move.isSpawn.toNat := by
  have ending (panel : Panel) (loop : Option Nat) :
      (panel.endLoop? loop).loops.length = panel.loops.length := by
    cases loop <;> simp [Panel.endLoop?, Panel.endLoop]
  cases move with
  | spawn period =>
      simp [step, spawn, install, ending, Panel.length_loops_pass, Panel.startLoop, Move.isSpawn]
  | put => cases held : state.held <;> simp [step, put, held, install, ending, Move.isSpawn]
  | pass loop => exact Panel.length_loops_pass _ _ _ _
  | take | stop | dirty | media | width =>
      simp [step, take, stop, changeFace, Panel.changeFace, replaceMedia, ending, Move.isSpawn]

/-- What the run so far let go of, together with what the rest of it lets go of, is over at its end;
what it does not let go of is installed or held. -/
theorem custody_run (custody : state.panel.Custody state.owned ended) (moves : List Move) :
    (state.run moves).panel.Custody (state.run moves).owned (ended ++ state.ended moves) := by
  induction moves generalizing state ended with
  | nil =>
      rw [Handover.ended, List.append_nil]
      exact custody
  | cons move rest ih =>
      have later := ih (custody_step custody move)
      rw [List.append_assoc] at later
      exact later

theorem length_loops_run (state : Handover) (moves : List Move) :
    (state.run moves).panel.loops.length =
      state.panel.loops.length + moves.countP Move.isSpawn := by
  induction moves generalizing state with
  | nil => rfl
  | cons move rest ih =>
      have later := ih (state.step move)
      rw [length_loops_step] at later
      rw [List.countP_cons]
      change ((state.step move).run rest).panel.loops.length = _
      rw [later]
      cases move.isSpawn with
      | false => rfl
      | true =>
          simp only [Bool.toNat_true, if_true]
          omega

end Custody

section Calls

structure Told (animator : Animator) (calls : List Call) : Prop where
  task : animator.task = installed calls
  stopped : animator.stopped = true ↔ ∃ loop, lastSwitch calls = some (.stop loop)
  back : ∀ index call, calls[index]? = some call → call.back = installed (calls.take index)

variable {animator : Animator} {calls : List Call}

theorem installed_snoc (calls : List Call) (call : Call) :
    installed (calls ++ [call]) = installed [call] := by
  simp [installed]

theorem lastSwitch_snoc (calls : List Call) (call : Call) :
    lastSwitch (calls ++ [call]) = if call.isSwitch then some call else lastSwitch calls := by
  unfold lastSwitch
  rw [List.filter_append]
  cases switch : call.isSwitch <;> simp [switch]

theorem Told.snoc_back (told : Told animator calls) {call : Call}
    (handed : call.back = animator.task) :
    ∀ index other, (calls ++ [call])[index]? = some other →
      other.back = installed ((calls ++ [call]).take index) := by
  intro index other found
  by_cases earlier : index < calls.length
  · rw [List.getElem?_append_left earlier] at found
    rw [List.take_append_of_le_length (Nat.le_of_lt earlier)]
    exact told.back index other found
  · have bound := (List.getElem?_eq_some_iff.mp found).1
    have last : index = calls.length := by
      simp only [List.length_append, List.length_singleton] at bound
      omega
    subst last
    rw [List.getElem?_concat_length] at found
    obtain rfl := Option.some.inj found
    rw [List.take_left, ← told.task, handed]

theorem Told.install (told : Told animator calls) (loop : Nat) :
    Told (animator.install loop).1 (calls ++ [.install loop (animator.install loop).2]) := by
  refine ⟨?_, ?_, told.snoc_back rfl⟩
  · rw [installed_snoc]
    rfl
  · rw [lastSwitch_snoc]
    simp [Animator.install, Call.isSwitch]

theorem Told.take (told : Told animator calls) :
    Told animator.take.1 (calls ++ [.take animator.take.2]) := by
  refine ⟨?_, ?_, told.snoc_back rfl⟩
  · rw [installed_snoc]
    rfl
  · rw [lastSwitch_snoc]
    exact told.stopped

theorem Told.stop (told : Told animator calls) :
    Told animator.stop.1 (calls ++ [.stop animator.stop.2]) := by
  refine ⟨?_, ?_, told.snoc_back rfl⟩
  · rw [installed_snoc]
    rfl
  · rw [lastSwitch_snoc]
    simp [Animator.stop, Call.isSwitch]

theorem told_step {state : Handover} (told : Told state.animator calls) (move : Move) :
    Told (state.step move).animator (calls ++ (state.callOf move).toList) := by
  have kept : Told state.animator (calls ++ (none : Option Call).toList) := by
    rw [Option.toList_none, List.append_nil]
    exact told
  cases move with
  | spawn period => exact told.install state.panel.loops.length
  | take => exact told.take
  | put =>
      cases held : state.held with
      | none =>
          simp only [step, put, callOf, held]
          exact kept
      | some loop =>
          simp only [step, put, callOf, held]
          exact told.install loop
  | stop => exact told.stop
  | dirty => exact kept
  | media media => exact kept
  | width width => exact kept
  | pass loop => exact kept

theorem told_run {state : Handover} (told : Told state.animator calls) (moves : List Move) :
    Told (state.run moves).animator (calls ++ state.calls moves) := by
  induction moves generalizing state calls with
  | nil =>
      rw [Handover.calls, List.append_nil]
      exact told
  | cons move rest ih =>
      have later := ih (told_step told move)
      rw [List.append_assoc] at later
      exact later

theorem Told.phase (told : Told animator calls) :
    (animator.phase = .running ↔ installed calls ≠ none) ∧
    (animator.phase = .stopped ↔
      installed calls = none ∧ ∃ loop, lastSwitch calls = some (.stop loop)) ∧
    (animator.phase = .idle ↔
      installed calls = none ∧ ¬ ∃ loop, lastSwitch calls = some (.stop loop)) := by
  rw [← told.task, ← told.stopped]
  unfold Animator.phase
  cases animator.task <;> cases animator.stopped <;> simp

end Calls

section Messages

structure Single (panel : Panel) (context : String) : Prop where
  face : ∃ face, panel.faces = [face] ∧ face.context = context
  loops : ∀ loop ∈ panel.loops, loop.face = 0

variable {panel : Panel} {context : String}

theorem drawn_eq (face : Face) (media : NowPlaying) (target : Target) (offset : Nat) :
    (Scene.draw ⟨face, media⟩ target Scene.undisturbed offset).sent =
      drawn face media target offset := by
  unfold drawn
  by_cases blank : face.width = 0
  · rw [Scene.draw_blank ⟨face, media⟩ target offset blank, if_pos blank]
  · rw [if_neg blank]
    have dirty : face.isDirty = face.flag.pending.isSome := rfl
    cases pending : face.flag.pending with
    | none =>
        rw [Scene.draw_steady ⟨face, media⟩ target offset blank pending, dirty, pending]
        rfl
    | some generation =>
        rw [Scene.draw_pending ⟨face, media⟩ target offset blank pending, dirty, pending]
        rfl

theorem Single.changeFace (single : Single panel context) {change : Face → Face}
    (steady : ∀ face, (change face).context = face.context) :
    Single (panel.changeFace 0 change) context := by
  obtain ⟨face, faces, whose⟩ := single.face
  refine ⟨⟨change face, ?_, (steady face).trans whose⟩, single.loops⟩
  simp [Panel.changeFace, faces]

theorem Single.startLoop (single : Single panel context) (period : Nat) :
    Single (panel.startLoop 0 period).1 context := by
  refine ⟨single.face, ?_⟩
  intro loop member
  rcases List.mem_append.mp member with old | new
  · exact single.loops loop old
  · rw [List.mem_singleton.mp new]

theorem Single.endLoop? (single : Single panel context) (loop : Option Nat) :
    Single (panel.endLoop? loop) context := by
  cases loop with
  | none => exact single
  | some number =>
      refine ⟨single.face, ?_⟩
      intro loop member
      obtain ⟨index, found⟩ := List.mem_iff_getElem?.mp member
      simp only [Panel.endLoop?, Panel.endLoop, List.getElem?_modify] at found
      obtain ⟨old, present, same⟩ := Option.map_eq_some_iff.mp found
      have zero := single.loops old (List.mem_of_getElem? present)
      rw [← same]
      split <;> exact zero

/-- A pass of a live loop sends what drawing the one face sends. -/
theorem Single.pass (single : Single panel context) (media : NowPlaying) (target : Target)
    (number : Nat) :
    Single (panel.pass media target number) context ∧
      (panel.pass media target number).sent = panel.sent ++
        match panel.loops[number]? with
        | some loop =>
          if loop.live then drawn (panel.faces.headD default) media target loop.tick else []
        | none => [] := by
  obtain ⟨only, faces, whose⟩ := single.face
  cases found : panel.loops[number]? with
  | none => simpa [Panel.pass, found] using single
  | some loop =>
      have zero : loop.face = 0 := single.loops loop (List.mem_of_getElem? found)
      have present : panel.faces[loop.face]? = some only := by simp [zero, faces]
      by_cases live : loop.live = true
      · rw [Panel.pass_live media target found present live]
        simp only [live, if_true, drawn_eq, faces, List.headD_cons, and_true]
        let drawing := Scene.draw ⟨only, media⟩ target Scene.undisturbed loop.tick
        refine ⟨⟨drawing.scene.face, ?_, ?_⟩, ?_⟩
        · simp [zero, drawing]
        · exact (Scene.draw_context ⟨only, media⟩ target loop.tick).1.trans whose
        · intro other member
          rcases List.mem_or_eq_of_mem_set member with old | new
          · exact single.loops other old
          · rw [new]
            exact zero
      · simpa [Panel.pass, found, present, live] using single

theorem single_step {state : Handover} (single : Single state.panel context) (move : Move) :
    Single (state.step move).panel context ∧
      (state.step move).panel.sent = state.panel.sent ++ state.sentIn move := by
  have still {panel : Panel} (other : Single panel context) (same : panel.sent = state.panel.sent) :
      Single panel context ∧ panel.sent = state.panel.sent ++ [] := by
    rw [List.append_nil]
    exact ⟨other, same⟩
  have sent_end (panel : Panel) (loop : Option Nat) : (panel.endLoop? loop).sent = panel.sent := by
    cases loop <;> rfl
  cases move with
  | spawn period =>
      have passed := (single.startLoop period).pass state.media state.target
        state.panel.loops.length
      refine ⟨passed.1.endLoop? _, ?_⟩
      have started : (state.panel.startLoop 0 period).1.loops[state.panel.loops.length]? =
          some { face := 0, period := period } := by
        simp [Panel.startLoop]
      rw [started] at passed
      exact (sent_end _ _).trans passed.2
  | take => exact still (single.endLoop? _) (sent_end _ _)
  | put =>
      cases held : state.held with
      | none =>
          simp only [step, put, held]
          exact still single rfl
      | some loop =>
          simp only [step, put, held]
          exact still (single.endLoop? _) (sent_end _ _)
  | stop => exact still (single.endLoop? _) (sent_end _ _)
  | dirty => exact still (single.changeFace fun _ => rfl) rfl
  | media media => exact still single rfl
  | width width => exact still (single.changeFace fun _ => rfl) rfl
  | pass loop => exact single.pass state.media state.target loop

theorem drawn_image_iff (face : Face) (media : NowPlaying) (target : Target) (offset : Nat) :
    .setImage face.context media.image target ∈ drawn face media target offset ↔
      face.isDirty = true ∧ face.width ≠ 0 := by
  unfold drawn
  by_cases blank : face.width = 0 <;> cases face.isDirty <;> simp [blank]

theorem single_run {state : Handover} (single : Single state.panel context) (moves : List Move) :
    Single (state.run moves).panel context := by
  induction moves generalizing state with
  | nil => exact single
  | cons move rest ih => exact ih (single_step single move).1

end Messages

/-- A button whose loops are handed about in any order. Each loop that was ever spawned is exactly
once installed, held or among those that were let go of, and the live ones are those installed or
held. The animator hands back exactly the loop that the calls before left installed, so an install
the one it displaces and a take the installed one. It is running iff one is installed; if none is,
then it is stopped iff the last install or stop was a stop. And a move sends nothing but what the
loop that it spawns draws, from offset zero on, and with the image iff the flag is set and there is
room; or what a live loop draws that makes a further pass. -/
theorem spawned_perm_places (context : String) (width : Nat) (media : NowPlaying) (target : Target)
    (moves : List Move) :
    let begun := start context width media target
    let state := begun.run moves
    let calls := begun.calls moves
    let ended := begun.ended moves
    (List.range (moves.countP Move.isSpawn)).Perm
      (state.animator.task.toList ++ state.held.toList ++ ended) ∧
    (∀ loop, state.panel.isLive loop = true ↔
      state.animator.task = some loop ∨ state.held = some loop) ∧
    state.animator.task = installed calls ∧
    (∀ index call, calls[index]? = some call → call.back = installed (calls.take index)) ∧
    (state.animator.phase = .running ↔ installed calls ≠ none) ∧
    (state.animator.phase = .stopped ↔
      installed calls = none ∧ ∃ loop, lastSwitch calls = some (.stop loop)) ∧
    (state.animator.phase = .idle ↔
      installed calls = none ∧ ¬ ∃ loop, lastSwitch calls = some (.stop loop)) ∧
    state.face.context = context ∧
    (∀ move, (state.step move).panel.sent = state.panel.sent ++ state.sentIn move) ∧
    (∀ period, .setImage context state.media.image state.target ∈ state.sentIn (.spawn period) ↔
      state.face.isDirty = true ∧ state.face.width ≠ 0) := by
  intro begun state calls ended
  have fresh : begun.panel.Custody begun.owned [] := ⟨List.Perm.refl _, fun _ => by simp [begun,
    start, owned, Panel.isLive]⟩
  have custody : state.panel.Custody state.owned ended := custody_run fresh moves
  have spawned : state.panel.loops.length = moves.countP Move.isSpawn := by
    rw [length_loops_run]
    exact Nat.zero_add _
  have untold : Told begun.animator [] := ⟨rfl, by simp [begun, start, lastSwitch],
    by simp⟩
  have told : Told state.animator calls := told_run untold moves
  have alone : Single begun.panel context := ⟨⟨_, rfl, rfl⟩, by simp [begun, start]⟩
  have single : Single state.panel context := single_run alone moves
  have whose : state.face.context = context := by
    obtain ⟨face, faces, whose⟩ := single.face
    rw [Handover.face, faces]
    exact whose
  refine ⟨?_, ?_, told.task, told.back, told.phase.1, told.phase.2.1, told.phase.2.2, whose, ?_, ?_⟩
  · rw [← spawned]
    exact custody.whole
  · intro loop
    rw [custody.live]
    simp [owned]
  · exact fun move => (single_step single move).2
  · intro period
    rw [← whose]
    exact drawn_image_iff state.face state.media state.target 0

def juggled : List Move := [.dirty, .spawn 250, .take, .spawn 250, .put, .stop, .dirty, .take]

theorem spawned_perm_places_juggled :
    let begun := start "key" 4 ⟨"Song", "cover"⟩ .both
    let state := begun.run juggled
    (List.range 2).Perm [1, 0] ∧ state.panel.isLive 0 = false ∧
      begun.calls juggled = [.install 0 none, .take (some 0), .install 1 none,
        .install 0 (some 1), .stop (some 0), .take none] ∧
      installed ((begun.calls juggled).take 3) = some 1 ∧ state.animator.phase = .stopped ∧
      .setImage "key" "cover" .both ∈ state.sentIn (.spawn 250) := by
  intro begun state
  obtain ⟨places, live, _, back, _, stopped, _, _, _, pushed⟩ :=
    spawned_perm_places "key" 4 ⟨"Song", "cover"⟩ .both juggled
  have unowned : ¬ state.panel.isLive 0 = true := fun owned => by
    rcases (live 0).mp owned with installed | held
    · cases installed
    · cases held
  exact ⟨places, Bool.not_eq_true _ ▸ unowned, rfl, (back 3 _ rfl).symm,
    stopped.mpr ⟨rfl, some 0, rfl⟩, (pushed 250).mpr ⟨rfl, by decide⟩⟩

end Marquee.Handover
