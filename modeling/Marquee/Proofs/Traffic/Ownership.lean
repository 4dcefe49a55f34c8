import Marquee.Proofs.Traffic.Sections

/-!
Loops as goods that pass from hand to hand: a live loop is in the registry or in the hand of one
call, and no section of a call copies it or lets it go.
-/

namespace Marquee

namespace Panel

def liveCount (panel : Panel) (loop : Nat) : Nat := if panel.isLive loop then 1 else 0

theorem liveCount_le_one (panel : Panel) (loop : Nat) : panel.liveCount loop ≤ 1 := by
  unfold liveCount
  split <;> omega

end Panel

namespace Controller

/-- A loop is in one hand while it is live and in none afterwards: in the registry, in the hand of
one call, or in one of `others`. -/
def Balanced (controller : Controller) (call : Call) (others : List Nat) : Prop :=
  ∀ loop, controller.registry.tasks.count loop + call.loops.count loop + others.count loop =
    controller.panel.liveCount loop

theorem balanced_enter (controller : Controller) {call : Call} {others : List Nat}
    (distinct : controller.registry.Distinct) (balanced : controller.Balanced call others)
    (free : call.loops = []) (context : String) (settings : Json) :
    (controller.enter context settings).1.Balanced (controller.enter context settings).2
      others := by
  intro loop
  have before := balanced loop
  rw [free, List.count_nil] at before
  simp only [enter, Call.loops]
  cases found : controller.registry.find? context with
  | none =>
      rw [takeOver_absent found]
      simp only [Registry.tasks_insert, Registry.erase_of_absent found]
      exact before
  | some entry =>
      have split := Registry.count_tasks distinct found loop
      rw [takeOver_found found]
      simp only [Registry.tasks_insert, List.count_append]
      have same : (controller.panel.changeFace entry.face Face.markDirty).liveCount loop =
        controller.panel.liveCount loop := rfl
      simp only [Animator.take, Option.toList_none, List.count_nil, same]
      omega

theorem balanced_end {controller : Controller} {call after : Call} {others : List Nat}
    (balanced : controller.Balanced call others) {loop : Nat}
    (handed : ∀ other, call.loops.count other = [loop].count other + after.loops.count other) :
    (controller.endLoop? (some loop)).Balanced after others := by
  intro other
  have before := balanced other
  have bound := controller.panel.liveCount_le_one other
  rw [handed] at before
  change controller.registry.tasks.count other + _ + _ =
    (controller.panel.endLoop loop).liveCount other
  unfold Panel.liveCount
  by_cases same : other = loop
  · subst same
    rw [Panel.isLive_endLoop_self]
    simp only [List.count_cons_self, Bool.false_eq_true, if_false] at before ⊢
    omega
  · rw [Panel.isLive_endLoop_other _ same]
    have apart : [loop].count other = 0 := List.count_eq_zero.mpr (by simpa using same)
    rw [apart] at before
    unfold Panel.liveCount at before
    omega

theorem balanced_endLoop? {controller : Controller} {call after : Call} {others : List Nat}
    (balanced : controller.Balanced call others) {loop : Option Nat}
    (held : call.loops = loop.toList) (free : after.loops = []) :
    (controller.endLoop? loop).Balanced after others := by
  cases loop with
  | none =>
      intro other
      have before := balanced other
      rw [held] at before
      rw [free]
      exact before
  | some loop =>
      apply balanced_end balanced
      intro other
      rw [held, free]
      rfl

theorem balanced_spawn {controller : Controller} {call : Call} {others : List Nat}
    (balanced : controller.Balanced call others) (free : call.loops = []) (job : Job) :
    let spawned := controller.spawn job.context job.face job.period
    spawned.1.Balanced (.installing job spawned.2) others := by
  intro spawned loop
  have before := balanced loop
  rw [free, List.count_nil] at before
  simp only [Call.loops]
  change controller.registry.tasks.count loop + _ + _ =
    (controller.panel.startLoop job.face job.period).1.liveCount loop
  -- The number of the new loop was nobody's, so it counted zero before.
  by_cases fresh : loop = (controller.panel.startLoop job.face job.period).2
  · have unstarted := controller.panel.isLive_unstarted job.face job.period
    have started := controller.panel.isLive_startLoop job.face job.period
    have number : spawned.2 = loop := fresh.symm
    unfold Panel.liveCount at before ⊢
    rw [fresh, unstarted] at before
    rw [number, fresh, started]
    simp only [List.count_singleton_self, Bool.false_eq_true, if_false, if_true] at before ⊢
    omega
  · have apart : [spawned.2].count loop = 0 := by
      rw [List.count_eq_zero, List.mem_singleton]
      exact fresh
    unfold Panel.liveCount at before ⊢
    rw [controller.panel.isLive_startLoop_other job.face job.period fresh, apart]
    exact before

theorem balanced_install {controller : Controller} {others : List Nat} {job : Job} {loop : Nat}
    (distinct : controller.registry.Distinct)
    (balanced : controller.Balanced (.installing job loop) others) :
    let result := controller.install job.context job.face loop
    result.1.Balanced (.closing job result.2.1 result.2.2) others := by
  intro result other
  have before := balanced other
  simp only [Call.loops] at before ⊢
  rcases controller.install_cases job.context job.face loop with
    ⟨entry, found, _, installed⟩ | ⟨_, rejected⟩
  · have split := Registry.count_tasks distinct found other
    simp only [result, installed, Registry.tasks_insert, List.count_append, Animator.install,
      Option.toList_some]
    omega
  · simp only [result, rejected]
    exact before

theorem balanced_advance {controller : Controller} {call : Call} {others : List Nat}
    (distinct : controller.registry.Distinct) (balanced : controller.Balanced call others) :
    (controller.advance call).1.Balanced (controller.advance call).2 others := by
  cases call with
  | appear context settings =>
      exact balanced_enter
        (controller.note .debug "button appeared" [("context", .text context)]) distinct balanced
        rfl context settings
  | settings context settings =>
      exact balanced_enter
        (controller.note .debug "button settings received" [("context", .text context)]) distinct
        balanced rfl context settings
  | ending job former => exact balanced_endLoop? balanced rfl rfl
  | starting job => exact balanced_spawn balanced rfl job
  | installing job loop => exact balanced_install distinct balanced
  | closing job installed rejected =>
      have ended : (controller.endLoop? rejected).Balanced .returned others :=
        balanced_endLoop? balanced rfl rfl
      unfold advance noteStarted
      cases installed <;> exact ended
  | disappear context =>
      intro loop
      have before := balanced loop
      cases found : controller.registry.find? context with
      | none =>
          rw [advance_disappear_absent found]
          exact before
      | some entry =>
          have split := Registry.count_tasks distinct found loop
          rw [advance_disappear_found found]
          simp only [Call.loops, List.count_nil] at before ⊢
          omega
  | leaving context loop => exact balanced_endLoop? balanced rfl rfl
  | shutdown => exact balanced
  | draining =>
      intro loop
      have before := balanced loop
      simp only [advance, drain, Call.loops, List.count_nil] at before ⊢
      change 0 + _ + _ = _
      omega
  | emptying loops =>
      cases loops with
      | nil => exact balanced
      | cons loop rest =>
          apply balanced_end balanced
          intro other
          change ([loop] ++ rest).count other = _
          rw [List.count_append]
          rfl
  | returned => exact balanced

end Controller

end Marquee
