import Mathlib.Data.List.Iterate
import Mathlib.Logic.Function.Iterate
import Marquee.Periodic

/-!
A periodic task whose loop and whose stops are put in any order. The ticks get one counter after the
other and never overlap; and after a stop has returned there is no tick any more, whether it came
from outside, where it waits for the loop, or from a tick, which is then the last one.
-/

namespace Marquee

inductive TickEvent (α : Type) where
  | begun (counter : α)
  | returned (counter : α)
deriving DecidableEq, Repr

namespace Periodic

inductive Move where
  | beginTick
  | endTick
  | wake
  | stop (stopper : Stopper)
  /-- The task is let go, which stops it. -/
  | drop (stopper : Stopper)
  /-- A stop that waits for the loop returns, if the loop has ended. -/
  | join
deriving DecidableEq, Repr

variable {α : Type}

def step (tick : α → α) (task : Periodic α) : Move → Periodic α
  | .beginTick => task.beginTick
  | .endTick => task.endTick tick
  | .wake => task.wake
  | .stop stopper => task.stop stopper
  | .drop stopper => task.stop stopper
  | .join => task.join

def run (tick : α → α) (task : Periodic α) (moves : List Move) : Periodic α :=
  moves.foldl (step tick) task

def events (tick : α → α) (task : Periodic α) : Move → List (TickEvent α)
  | .beginTick =>
    match task.phase with
    | .ready counter => [.begun counter]
    | _ => []
  | .endTick =>
    match task.phase with
    | .ticking counter => [.returned (tick counter)]
    | _ => []
  | _ => []

def history (tick : α → α) (task : Periodic α) : List Move → List (TickEvent α)
  | [] => []
  | move :: rest => task.events tick move ++ (task.step tick move).history tick rest

def wholeTick (tick : α → α) (counter : α) : List (TickEvent α) :=
  [.begun counter, .returned (tick counter)]

def openTick : PeriodicPhase α → List (TickEvent α)
  | .ticking counter => [.begun counter]
  | _ => []

section Counters

variable {tick : α → α} {counter : α} {task : Periodic α} {log : List (TickEvent α)}

def At (task : Periodic α) (tick : α → α) (counter : α) (finished : Nat) : Prop :=
  match task.phase with
  | .ready next => next = tick^[finished] counter ∧ task.seen = List.iterate tick counter finished
  | .ticking current =>
    current = tick^[finished] counter ∧ task.seen = List.iterate tick counter (finished + 1)
  | .waiting next =>
    next = tick^[finished] counter ∧ task.seen = List.iterate tick counter finished ∧ 0 < finished
  | .ended => task.seen = List.iterate tick counter finished ∧ 0 < finished

structure Told (task : Periodic α) (tick : α → α) (counter : α) (log : List (TickEvent α))
    (finished : Nat) : Prop where
  reached : task.At tick counter finished
  log : log = (List.iterate tick counter finished).flatMap (wholeTick tick) ++ openTick task.phase

theorem iterate_succ_last (tick : α → α) (counter : α) (count : Nat) :
    List.iterate tick counter (count + 1) =
      List.iterate tick counter count ++ [tick^[count] counter] := by
  rw [List.iterate_add]
  rfl

theorem phase_join (task : Periodic α) : task.join.phase = task.phase := by
  unfold join
  split <;> rfl

theorem seen_join (task : Periodic α) : task.join.seen = task.seen := by
  unfold join
  split <;> rfl

theorem Told.kept {finished : Nat} (told : task.Told tick counter log finished)
    {after : Periodic α} (phase : after.phase = task.phase) (seen : after.seen = task.seen) :
    after.Told tick counter log finished := by
  obtain ⟨reached, log⟩ := told
  constructor
  · unfold At at reached ⊢
    rw [phase, seen]
    exact reached
  · rw [phase]
    exact log

theorem Told.beginTick {finished : Nat} (told : task.Told tick counter log finished) :
    task.beginTick.Told tick counter (log ++ task.events tick .beginTick) finished := by
  unfold Periodic.beginTick events
  cases phase : task.phase with
  | ready next =>
      obtain ⟨reached, rfl⟩ := told
      simp only [At, phase] at reached
      obtain ⟨rfl, seen⟩ := reached
      exact ⟨⟨rfl, by rw [seen, iterate_succ_last]⟩, by simp [phase, openTick]⟩
  | _ => simpa only [List.append_nil] using told

theorem Told.endTick {finished : Nat} (told : task.Told tick counter log finished) :
    ∃ later, (task.endTick tick).Told tick counter (log ++ task.events tick .endTick) later := by
  unfold Periodic.endTick events
  cases phase : task.phase with
  | ticking current =>
      obtain ⟨reached, rfl⟩ := told
      simp only [At, phase] at reached
      obtain ⟨rfl, seen⟩ := reached
      have next := (Function.iterate_succ_apply' tick finished counter).symm
      refine ⟨finished + 1, ⟨next, seen, Nat.succ_pos finished⟩, ?_⟩
      rw [iterate_succ_last]
      simp [phase, openTick, wholeTick]
  | _ => exact ⟨finished, by simpa only [List.append_nil] using told⟩

theorem Told.wake {finished : Nat} (told : task.Told tick counter log finished) :
    task.wake.Told tick counter log finished := by
  unfold Periodic.wake
  cases phase : task.phase with
  | waiting next =>
      obtain ⟨reached, rfl⟩ := told
      simp only [At, phase] at reached
      obtain ⟨rfl, seen, some⟩ := reached
      by_cases stays : task.isOpen = true
      · simp only [stays, if_true]
        exact ⟨⟨rfl, seen⟩, by simp [phase, openTick]⟩
      · simp only [stays]
        exact ⟨⟨seen, some⟩, by simp [phase, openTick]⟩
  | _ => exact told

theorem Told.step {finished : Nat} (told : task.Told tick counter log finished) (move : Move) :
    ∃ later, (task.step tick move).Told tick counter (log ++ task.events tick move) later := by
  cases move with
  | beginTick => exact ⟨finished, told.beginTick⟩
  | endTick => exact told.endTick
  | wake =>
      simp only [events, List.append_nil]
      exact ⟨finished, told.wake⟩
  | stop stopper =>
      simp only [events, List.append_nil]
      exact ⟨finished, told.kept rfl rfl⟩
  | drop stopper =>
      simp only [events, List.append_nil]
      exact ⟨finished, told.kept rfl rfl⟩
  | join =>
      simp only [events, List.append_nil]
      exact ⟨finished, told.kept (phase_join task) (seen_join task)⟩

theorem Told.run {finished : Nat} (told : task.Told tick counter log finished)
    (moves : List Move) :
    ∃ later, (task.run tick moves).Told tick counter (log ++ task.history tick moves) later := by
  induction moves generalizing task log finished with
  | nil =>
      rw [history, List.append_nil]
      exact ⟨finished, told⟩
  | cons move rest ih =>
      obtain ⟨next, later⟩ := told.step move
      rw [history, ← List.append_assoc]
      exact ih later

theorem Told.seen_eq {finished : Nat} (told : task.Told tick counter log finished) :
    task.seen = List.iterate tick counter task.seen.length := by
  have counted : ∃ count, task.seen = List.iterate tick counter count := by
    have reached := told.reached
    unfold At at reached
    split at reached
    · exact ⟨finished, reached.2⟩
    · exact ⟨finished + 1, reached.2⟩
    · exact ⟨finished, reached.2.1⟩
    · exact ⟨finished, reached.1⟩
  obtain ⟨count, same⟩ := counted
  rw [same, List.length_iterate]

theorem Told.seen_ne_nil {finished : Nat} (told : task.Told tick counter log finished)
    (ended : task.phase = .ended) : task.seen ≠ [] := by
  have reached := told.reached
  simp only [At, ended] at reached
  obtain ⟨seen, some⟩ := reached
  rw [seen, Ne, List.iterate_eq_nil]
  omega

theorem told_start (tick : α → α) (counter : α) : (start counter).Told tick counter [] 0 :=
  ⟨⟨rfl, rfl⟩, rfl⟩

end Counters

section Stops

variable {tick : α → α} {task : Periodic α}

/-- What the loop does by itself: it begins a tick only where it was about to, gets there from a
wait only while the channel is open, and does not come back from its end. -/
structure Loops (before after : Periodic α) : Prop where
  isOpen : after.isOpen = before.isOpen
  joinable : after.joinable = before.joinable
  joining : after.joining = before.joining
  ready : ∀ {counter}, after.phase = .ready counter →
    before.phase = .ready counter ∨ before.isOpen = true
  seen : after.seen = before.seen ∨ ∃ counter, before.phase = .ready counter
  ended : before.phase = .ended → after.phase = .ended

theorem Loops.refl (task : Periodic α) : Loops task task :=
  ⟨rfl, rfl, rfl, Or.inl, Or.inl rfl, id⟩

theorem loops_beginTick (task : Periodic α) : Loops task task.beginTick := by
  unfold beginTick
  split
  · next counter phase =>
      refine ⟨rfl, rfl, rfl, nofun, Or.inr ⟨counter, phase⟩, ?_⟩
      intro ended
      rw [phase] at ended
      cases ended
  · exact Loops.refl task

theorem loops_endTick (tick : α → α) (task : Periodic α) : Loops task (task.endTick tick) := by
  unfold endTick
  split
  · next counter phase =>
      refine ⟨rfl, rfl, rfl, nofun, Or.inl rfl, ?_⟩
      intro ended
      rw [phase] at ended
      cases ended
  · exact Loops.refl task

theorem loops_wake (task : Periodic α) : Loops task task.wake := by
  unfold wake
  split
  · next counter phase =>
      refine ⟨rfl, rfl, rfl, ?_, Or.inl rfl, ?_⟩
      · intro again ready
        by_cases stays : task.isOpen = true
        · exact Or.inr stays
        · simp [stays] at ready
      · intro ended
        rw [phase] at ended
        cases ended
  · exact Loops.refl task

theorem step_cases (tick : α → α) (task : Periodic α) (move : Move) :
    Loops task (task.step tick move) ∨
    (∃ stopper, task.step tick move = task.stop stopper) ∨
    (task.phase = .ended ∧ task.step tick move = { task with joining := false }) := by
  cases move with
  | beginTick => exact Or.inl (loops_beginTick task)
  | endTick => exact Or.inl (loops_endTick tick task)
  | wake => exact Or.inl (loops_wake task)
  | stop stopper => exact Or.inr (Or.inl ⟨stopper, rfl⟩)
  | drop stopper => exact Or.inr (Or.inl ⟨stopper, rfl⟩)
  | join =>
      simp only [step, join]
      split
      · next ended => exact Or.inr (Or.inr ⟨ended, by simp only [ended]⟩)
      · exact Or.inl (Loops.refl task)

/-- What every step keeps, every run keeps. -/
theorem run_keeps {holds : Periodic α → Prop}
    (kept : ∀ task move, holds task → holds (task.step tick move)) (begun : holds task)
    (moves : List Move) : holds (task.run tick moves) := by
  induction moves generalizing task with
  | nil => exact begun
  | cons move rest ih => exact ih (kept task move begun)

structure Coherent (task : Periodic α) : Prop where
  isOpen : task.isOpen = task.joinable
  joining : task.joining = true → task.joinable = false

theorem coherent_step (tick : α → α) (task : Periodic α) (move : Move) (coherent : task.Coherent) :
    (task.step tick move).Coherent := by
  obtain ⟨isOpen, joining⟩ := coherent
  rcases step_cases tick task move with loops | ⟨stopper, stopped⟩ | ⟨_, returned⟩
  · constructor
    · rw [loops.isOpen, loops.joinable, isOpen]
    · rw [loops.joining, loops.joinable]
      exact joining
  · rw [stopped]
    exact ⟨rfl, fun _ => rfl⟩
  · rw [returned]
    exact ⟨isOpen, nofun⟩

theorem coherent_run (counter : α) (moves : List Move) :
    ((start counter).run tick moves).Coherent :=
  run_keeps (coherent_step tick) ⟨rfl, by simp [start]⟩ moves

theorem Coherent.stop_again (coherent : task.Coherent) (stopped : task.joinable = false)
    (stopper : Stopper) : task.stop stopper = task := by
  obtain ⟨phase, isOpen, joinable, joining, seen⟩ := task
  obtain rfl : isOpen = joinable := coherent.isOpen
  obtain rfl : isOpen = false := stopped
  simp [stop]

structure Closing (seen : List α) (task : Periodic α) : Prop where
  closed : task.isOpen = false
  last : ∀ counter, task.phase ≠ .ready counter
  seen : task.seen = seen

theorem closing_step {seen : List α} (tick : α → α) (task : Periodic α) (move : Move)
    (closing : Closing seen task) : Closing seen (task.step tick move) := by
  obtain ⟨closed, last, same⟩ := closing
  rcases step_cases tick task move with loops | ⟨stopper, stopped⟩ | ⟨_, returned⟩
  · refine ⟨loops.isOpen.trans closed, ?_, ?_⟩
    · intro counter ready
      rcases loops.ready ready with before | stays
      · exact last counter before
      · rw [closed] at stays
        cases stays
    · rcases loops.seen with kept | ⟨counter, ready⟩
      · exact kept.trans same
      · exact absurd ready (last counter)
  · rw [stopped]
    exact ⟨rfl, last, same⟩
  · rw [returned]
    exact ⟨closed, last, same⟩

theorem ended_step (tick : α → α) (task : Periodic α) (move : Move) (ended : task.phase = .ended) :
    (task.step tick move).phase = .ended := by
  rcases step_cases tick task move with loops | ⟨stopper, stopped⟩ | ⟨_, returned⟩
  · exact loops.ended ended
  · rw [stopped]
    exact ended
  · rw [returned]
    exact ended

structure Awaited (task : Periodic α) : Prop where
  closed : task.isOpen = false
  waits : task.joining = true ∨ task.phase = .ended

theorem awaited_step (tick : α → α) (task : Periodic α) (move : Move) (awaited : task.Awaited) :
    (task.step tick move).Awaited := by
  obtain ⟨closed, waits⟩ := awaited
  rcases step_cases tick task move with loops | ⟨stopper, stopped⟩ | ⟨ended, returned⟩
  · refine ⟨loops.isOpen.trans closed, ?_⟩
    rw [loops.joining]
    exact waits.imp_right loops.ended
  · rw [stopped]
    refine ⟨rfl, waits.imp_left ?_⟩
    intro joining
    simp [stop, joining]
  · -- Only the end of the loop lets the one who waits return.
    rw [returned]
    exact ⟨closed, Or.inr ended⟩

/-- Wherever a stopped loop is, one more tick and one more wait end it. -/
theorem joined_of_closed (closed : task.isOpen = false) (tick : α → α) :
    (task.run tick [.beginTick, .endTick, .wake, .join]).joining = false := by
  obtain ⟨phase, isOpen, joinable, joining, seen⟩ := task
  obtain rfl : isOpen = false := closed
  cases phase <;> rfl

end Stops

/-- A periodic task in any order of what its loop and those who stop it do. The ticks are given the
counters one after the other, each what the tick before returned, and one has ended before the next
begins; a task that has ended made at least one tick. The first stop from outside waits: once it has
returned, the loop has ended and begins no tick again, and it does return when the loop goes on. A
stop from a tick does not wait, and that tick is the last one. Every further stop changes nothing. -/
theorem stops_after_iterates (tick : α → α) (counter : α) (moves : List Move) :
    let task := (start counter).run tick moves
    let history := (start counter).history tick moves
    task.seen = List.iterate tick counter task.seen.length ∧
    (task.phase = .ended → task.seen ≠ []) ∧
    (∃ finished, history =
      (List.iterate tick counter finished).flatMap (wholeTick tick) ++ openTick task.phase) ∧
    (task.joinable = true → ∀ ending between,
      ending = .stop .outside ∨ ending = .drop .outside →
      let later := (task.step tick ending).run tick between
      (later.joining = false → ∀ after, (later.run tick after).phase = .ended ∧
        (later.run tick after).seen = later.seen) ∧
      (later.run tick [.beginTick, .endTick, .wake, .join]).joining = false) ∧
    (∀ current ending, task.phase = .ticking current →
      ending = .stop .ownTick ∨ ending = .drop .ownTick →
      let stopped := task.step tick ending
      stopped.joining = task.joining ∧ stopped.phase = .ticking current ∧
        ∀ after, (stopped.run tick after).seen = task.seen) ∧
    (task.joinable = false → ∀ stopper,
      task.step tick (.stop stopper) = task ∧ task.step tick (.drop stopper) = task) := by
  intro task history
  obtain ⟨finished, told⟩ := (told_start tick counter).run moves
  have coherent : task.Coherent := coherent_run counter moves
  refine ⟨told.seen_eq, told.seen_ne_nil, ⟨finished, told.log⟩, ?_, ?_, ?_⟩
  · intro joinable ending between outside later
    have stopped : task.step tick ending = task.stop .outside := by
      rcases outside with rfl | rfl <;> rfl
    have begun : (task.step tick ending).Awaited := by
      rw [stopped]
      exact ⟨rfl, Or.inl (by simp [stop, joinable])⟩
    have awaited : later.Awaited := run_keeps (awaited_step tick) begun between
    refine ⟨?_, joined_of_closed awaited.closed tick⟩
    intro returned after
    have ended : later.phase = .ended := by
      rcases awaited.waits with joining | ended
      · rw [returned] at joining
        cases joining
      · exact ended
    have closing : Closing later.seen later := by
      refine ⟨awaited.closed, ?_, rfl⟩
      intro counter ready
      rw [ended] at ready
      cases ready
    exact ⟨run_keeps (ended_step tick) ended after,
      (run_keeps (closing_step tick) closing after).seen⟩
  · intro current ending ticking own stopped
    have same : stopped = task.stop .ownTick := by
      rcases own with rfl | rfl <;> rfl
    have closing : Closing task.seen stopped := by
      rw [same]
      refine ⟨rfl, ?_, rfl⟩
      intro counter ready
      rw [stop, ticking] at ready
      cases ready
    refine ⟨?_, ?_, fun after => (run_keeps (closing_step tick) closing after).seen⟩
    · rw [same]
      simp [stop]
    · rw [same]
      exact ticking
  · intro stopped stopper
    exact ⟨coherent.stop_again stopped stopper, coherent.stop_again stopped stopper⟩

def inSecondTick : List Move := [.beginTick, .endTick, .wake, .beginTick]

theorem stops_after_iterates_second :
    let tick (counter : Nat) := counter * 2 + 1
    let task := (start 5).run tick inSecondTick
    let later := (task.step tick (.stop .outside)).run tick [.endTick, .wake, .join]
    let stopped := task.step tick (.drop .ownTick)
    task.joinable = true ∧ task.phase = .ticking 11 ∧ task.seen = [5, 11] ∧
      later.joining = false ∧ (later.run tick inSecondTick).phase = .ended ∧
      (later.run tick inSecondTick).seen = [5, 11] ∧
      stopped.joining = false ∧ (stopped.run tick inSecondTick).seen = [5, 11] ∧
      later.joinable = false ∧ later.step tick (.drop .outside) = later := by
  intro tick task later stopped
  obtain ⟨_, _, _, outside, own, _⟩ := stops_after_iterates tick 5 inSecondTick
  obtain ⟨returned, _⟩ := outside rfl (.stop .outside) [.endTick, .wake, .join] (Or.inl rfl)
  obtain ⟨ended, seen⟩ := returned rfl inSecondTick
  obtain ⟨waits, _, last⟩ := own 11 (.drop .ownTick) rfl (Or.inr rfl)
  have again := (stops_after_iterates tick 5
    (inSecondTick ++ [.stop .outside, .endTick, .wake, .join])).2.2.2.2.2 rfl .outside
  exact ⟨rfl, rfl, rfl, rfl, ended, seen, waits, last inSecondTick, rfl, again.2⟩

end Periodic

end Marquee
