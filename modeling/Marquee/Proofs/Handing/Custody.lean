import Mathlib.Data.List.Perm.Basic
import Marquee.Proofs.Traffic.Panel

/-!
The loops of a panel as goods: each loop there ever was is either kept by someone, who alone makes
it live, or it has ended. Starting a loop puts it into a hand, and ending one takes it out.
-/

namespace Marquee.Panel

structure Custody (panel : Panel) (kept ended : List Nat) : Prop where
  whole : (List.range panel.loops.length).Perm (kept ++ ended)
  live : ∀ loop, panel.isLive loop = true ↔ loop ∈ kept

variable {panel : Panel} {kept ended : List Nat}

theorem Custody.perm (custody : Custody panel kept ended) {others : List Nat}
    (same : kept.Perm others) : Custody panel others ended := by
  refine ⟨custody.whole.trans (same.append_right ended), ?_⟩
  intro loop
  rw [custody.live, same.mem_iff]

theorem Custody.nodup (custody : Custody panel kept ended) : kept.Nodup :=
  (List.nodup_append.mp (custody.whole.nodup_iff.mp List.nodup_range)).1

theorem Custody.changeFace (custody : Custody panel kept ended) (number : Nat)
    (change : Face → Face) : Custody (panel.changeFace number change) kept ended :=
  ⟨custody.whole, custody.live⟩

theorem length_loops_pass (panel : Panel) (media : NowPlaying) (target : Target) (number : Nat) :
    (panel.pass media target number).loops.length = panel.loops.length := by
  rcases panel.pass_cases media target number with same | ⟨loop, face, _, _, _, passed⟩
  · rw [same]
  · rw [passed]
    exact List.length_set

theorem Custody.pass (custody : Custody panel kept ended) (media : NowPlaying) (target : Target)
    (number : Nat) : Custody (panel.pass media target number) kept ended := by
  refine ⟨?_, ?_⟩
  · rw [length_loops_pass]
    exact custody.whole
  · intro loop
    rw [isLive_pass]
    exact custody.live loop

theorem Custody.startLoop (custody : Custody panel kept ended) (face period : Nat) :
    Custody (panel.startLoop face period).1 ((panel.startLoop face period).2 :: kept) ended := by
  refine ⟨?_, ?_⟩
  · have longer : (panel.startLoop face period).1.loops.length = panel.loops.length + 1 := by
      simp [Panel.startLoop]
    rw [longer, List.range_succ]
    exact (List.perm_append_singleton _ _).trans (custody.whole.cons _)
  · intro loop
    rw [List.mem_cons, ← custody.live]
    by_cases fresh : loop = (panel.startLoop face period).2
    · subst fresh
      simp [isLive_startLoop]
    · rw [isLive_startLoop_other panel face period fresh]
      simp [fresh]

theorem Custody.endLoop? {loop : Option Nat} (custody : Custody panel (loop.toList ++ kept) ended) :
    Custody (panel.endLoop? loop) kept (ended ++ loop.toList) := by
  cases loop with
  | none =>
      rw [Option.toList_none, List.append_nil]
      exact custody
  | some number =>
      have absent : number ∉ kept := (List.nodup_cons.mp custody.nodup).1
      refine ⟨?_, ?_⟩
      · have same : (panel.endLoop number).loops.length = panel.loops.length := by
          simp [endLoop]
        change (List.range (panel.endLoop number).loops.length).Perm _
        rw [same, ← List.append_assoc]
        exact custody.whole.trans (List.perm_append_singleton number (kept ++ ended)).symm
      · intro other
        change (panel.endLoop number).isLive other = true ↔ other ∈ kept
        by_cases same : other = number
        · subst same
          simp [isLive_endLoop_self, absent]
        · rw [isLive_endLoop_other panel same, custody.live]
          simp [same]

end Marquee.Panel
