import Marquee.Proofs.Traffic.Sound

/-!
Who owns a loop. However the sections of the host's calls come one after another, a live loop is
owned by one button or by one call that is not over yet; and once all calls have returned, every
button has its one loop, and there is no other.
-/

namespace Marquee

inductive Place where
  | button (context : String)
  | call (number : Nat)
deriving DecidableEq, Repr

namespace Traffic

variable {traffic : Traffic}

def Holds (traffic : Traffic) (loop : Nat) : Place → Prop
  | .button context => ∃ entry, traffic.controller.registry.find? context = some entry ∧
      entry.animator.task = some loop
  | .call number => ∃ call, traffic.calls[number]? = some call ∧ loop ∈ call.loops

theorem mem_tasks_of_find? {registry : Registry} {context : String} {entry : Entry} {loop : Nat}
    (found : registry.find? context = some entry) (task : entry.animator.task = some loop) :
    loop ∈ registry.tasks :=
  List.mem_filterMap.mpr ⟨(context, entry), Registry.mem_of_find? found, task⟩

theorem Sound.exists_button (sound : traffic.Sound) {loop : Nat}
    (installed : loop ∈ traffic.controller.registry.tasks) :
    ∃ context, traffic.Holds loop (.button context) := by
  obtain ⟨entry, member, task⟩ := List.mem_filterMap.mp installed
  exact ⟨entry.1, entry.2, Registry.find?_of_mem sound.distinct member, task⟩

theorem Sound.exists_place (sound : traffic.Sound) {loop : Nat}
    (live : traffic.controller.panel.isLive loop = true) : ∃ place, traffic.Holds loop place := by
  have owned := sound.owned loop
  have one : traffic.controller.panel.liveCount loop = 1 := if_pos live
  by_cases installed : loop ∈ traffic.controller.registry.tasks
  · obtain ⟨context, held⟩ := sound.exists_button installed
    exact ⟨_, held⟩
  · have none := List.count_eq_zero.mpr installed
    have inHand : loop ∈ traffic.inHand := List.count_pos_iff.mp (by omega)
    obtain ⟨call, member, held⟩ := List.mem_flatMap.mp inHand
    obtain ⟨number, found⟩ := List.mem_iff_getElem?.mp member
    exact ⟨.call number, call, found, held⟩

theorem count_button {loop : Nat} {context : String}
    (held : traffic.Holds loop (.button context)) :
    0 < traffic.controller.registry.tasks.count loop := by
  obtain ⟨entry, found, task⟩ := held
  exact List.count_pos_iff.mpr (mem_tasks_of_find? found task)

theorem count_call {loop number : Nat} (held : traffic.Holds loop (.call number)) :
    0 < traffic.inHand.count loop := by
  obtain ⟨call, found, member⟩ := held
  exact List.count_pos_iff.mpr
    (List.mem_flatMap.mpr ⟨call, List.mem_of_getElem? found, member⟩)

theorem Sound.button_unique (sound : traffic.Sound) {loop : Nat} {context other : String}
    (held : traffic.Holds loop (.button context)) (again : traffic.Holds loop (.button other)) :
    other = context := by
  obtain ⟨entry, found, task⟩ := held
  obtain ⟨second, foundSecond, taskSecond⟩ := again
  by_cases same : other = context
  · exact same
  · -- Two buttons with one loop would count it twice.
    have split := Registry.count_tasks sound.distinct found loop
    rw [← Registry.find?_erase_other _ same] at foundSecond
    have elsewhere := List.count_pos_iff.mpr (mem_tasks_of_find? foundSecond taskSecond)
    have owned := sound.owned loop
    have bound := traffic.controller.panel.liveCount_le_one loop
    rw [task, Option.toList_some, List.count_singleton_self] at split
    omega

theorem Sound.call_unique (sound : traffic.Sound) {loop number other : Nat}
    (held : traffic.Holds loop (.call number)) (again : traffic.Holds loop (.call other)) :
    other = number := by
  obtain ⟨call, found, member⟩ := held
  obtain ⟨second, foundSecond, memberSecond⟩ := again
  by_cases same : other = number
  · exact same
  · -- Two calls with one loop would count it twice.
    have split := count_inHand found loop
    have here := List.count_pos_iff.mpr member
    have beside : loop ∈ traffic.beside number := List.mem_flatMap.mpr
      ⟨second, List.mem_eraseIdx_iff_getElem?.mpr ⟨other, same, foundSecond⟩, memberSecond⟩
    have elsewhere := List.count_pos_iff.mpr beside
    have owned := sound.owned loop
    have bound := traffic.controller.panel.liveCount_le_one loop
    omega

theorem Sound.place_unique (sound : traffic.Sound) {loop : Nat} {place other : Place}
    (held : traffic.Holds loop place) (again : traffic.Holds loop other) : other = place := by
  have owned := sound.owned loop
  have bound := traffic.controller.panel.liveCount_le_one loop
  cases place with
  | button context =>
      have installed := count_button held
      cases other with
      | button second => rw [sound.button_unique held again]
      | call number =>
          have inHand := count_call again
          omega
  | call number =>
      have inHand := count_call held
      cases other with
      | button second =>
          have installed := count_button again
          omega
      | call second => rw [sound.call_unique held again]

theorem Sound.live_of_holds (sound : traffic.Sound) {loop : Nat} {place : Place}
    (held : traffic.Holds loop place) : traffic.controller.panel.isLive loop = true := by
  have owned := sound.owned loop
  by_cases live : traffic.controller.panel.isLive loop = true
  · exact live
  · have none : traffic.controller.panel.liveCount loop = 0 := if_neg live
    cases place with
    | button context =>
        have installed := count_button held
        omega
    | call number =>
        have inHand := count_call held
        omega

structure Settled (traffic : Traffic) : Prop where
  /-- Every button has one loop, which draws its face; no other live loop draws the button. -/
  staffed : ∀ {context entry}, traffic.controller.registry.find? context = some entry →
    ∃ loop, entry.animator.task = some loop ∧
      traffic.controller.panel.faceOf loop = some entry.face ∧
      ∀ other, traffic.controller.panel.isLive other = true ∧
        traffic.controller.panel.buttonOf other = some context ↔ other = loop
  /-- Every live loop is that of a button. -/
  registered : ∀ {loop}, traffic.controller.panel.isLive loop = true →
    ∃ context, traffic.Holds loop (.button context) ∧
      traffic.controller.panel.buttonOf loop = some context
  counted : traffic.controller.registry.running = traffic.controller.registry.contexts.length
  /-- Whatever loops make passes, only buttons that are registered are drawn. -/
  drawn : ∀ loops : List Nat, ∃ sent,
    (traffic.run (loops.map .tick)).controller.panel.sent =
        traffic.controller.panel.sent ++ sent ∧
      ∀ call ∈ sent, ∃ context ∈ traffic.controller.registry.contexts,
        call.context? = some context

theorem returned_of_isQuiet (quiet : traffic.isQuiet = true) {call : Call}
    (member : call ∈ traffic.calls) : call = .returned := by
  have returned := List.all_eq_true.mp quiet call member
  cases call with
  | returned => rfl
  | _ => cases returned

theorem inHand_of_isQuiet (quiet : traffic.isQuiet = true) : traffic.inHand = [] := by
  apply List.flatMap_eq_nil_iff.mpr
  intro call member
  rw [returned_of_isQuiet quiet member]
  rfl

theorem Sound.buttonOf_task (sound : traffic.Sound) {context : String} {entry : Entry} {loop : Nat}
    (found : traffic.controller.registry.find? context = some entry)
    (task : entry.animator.task = some loop) :
    traffic.controller.panel.buttonOf loop = some context := by
  unfold Panel.buttonOf
  rw [sound.entries.face found task]
  exact sound.entries.context found

theorem Sound.registered (sound : traffic.Sound) (quiet : traffic.isQuiet = true) {loop : Nat}
    (live : traffic.controller.panel.isLive loop = true) :
    ∃ context, traffic.Holds loop (.button context) ∧
      traffic.controller.panel.buttonOf loop = some context := by
  obtain ⟨place, held⟩ := sound.exists_place live
  cases place with
  | call number =>
      have inHand := count_call held
      rw [inHand_of_isQuiet quiet] at inHand
      cases inHand
  | button context =>
      obtain ⟨entry, found, task⟩ := held
      exact ⟨context, ⟨entry, found, task⟩, sound.buttonOf_task found task⟩

theorem Sound.has_task (sound : traffic.Sound) (quiet : traffic.isQuiet = true) {context : String}
    {entry : Entry} (found : traffic.controller.registry.find? context = some entry) :
    ∃ loop, entry.animator.task = some loop := by
  cases task : entry.animator.task with
  | some loop => exact ⟨loop, rfl⟩
  | none =>
      obtain ⟨call, member, awaits⟩ := sound.awaited found task
      rw [returned_of_isQuiet quiet member] at awaits
      exact absurd awaits (Call.not_awaits rfl _ _)

theorem Sound.drawn (sound : traffic.Sound) (quiet : traffic.isQuiet = true) (loops : List Nat) :
    ∃ sent, (traffic.run (loops.map .tick)).controller.panel.sent =
        traffic.controller.panel.sent ++ sent ∧
      ∀ call ∈ sent, ∃ context ∈ traffic.controller.registry.contexts,
        call.context? = some context := by
  induction loops generalizing traffic with
  | nil => exact ⟨[], (List.append_nil _).symm, nofun⟩
  | cons loop rest ih =>
      obtain ⟨first, sentFirst, drawnFirst⟩ := traffic.controller.panel.sent_pass
        traffic.controller.media traffic.controller.animation.target loop
      have next := sound.yields (traffic.yields_step (.tick loop))
      obtain ⟨others, sentOthers, drawnOthers⟩ := ih next quiet
      refine ⟨first ++ others, ?_, ?_⟩
      · rw [← List.append_assoc, ← sentFirst]
        exact sentOthers
      · intro call member
        rcases List.mem_append.mp member with early | late
        · obtain ⟨live, whose⟩ := drawnFirst call early
          obtain ⟨context, ⟨entry, found, _⟩, drawn⟩ := sound.registered quiet live
          exact ⟨context, List.mem_map.mpr ⟨_, Registry.mem_of_find? found, rfl⟩,
            whose.trans drawn⟩
        · exact drawnOthers call late

theorem Sound.settled (sound : traffic.Sound) (quiet : traffic.isQuiet = true) :
    traffic.Settled := by
  refine ⟨?_, sound.registered quiet, ?_, sound.drawn quiet⟩
  · intro context entry found
    obtain ⟨loop, task⟩ := sound.has_task quiet found
    have held : traffic.Holds loop (.button context) := ⟨entry, found, task⟩
    refine ⟨loop, task, sound.entries.face found task, ?_⟩
    intro other
    constructor
    · rintro ⟨live, drawn⟩
      obtain ⟨second, ⟨same, foundSame, taskSame⟩, whose⟩ := sound.registered quiet live
      rw [drawn] at whose
      cases whose
      rw [found] at foundSame
      cases foundSame
      rw [task] at taskSame
      exact (Option.some.inj taskSame).symm
    · intro same
      rw [same]
      exact ⟨sound.live_of_holds held, sound.buttonOf_task found task⟩
  · apply Registry.running_eq_length
    intro entry member idle
    obtain ⟨loop, task⟩ := sound.has_task quiet (Registry.find?_of_mem sound.distinct member)
    rw [idle] at task
    cases task

/-- In whatever order the sections of the host's calls come, each live loop is at every moment in
exactly one place; and whenever all calls have returned, each button has exactly one live loop, and
no loop draws anything else. -/
theorem owned_in_one_place (config : Config) (source : Source) (decoder : Artwork.Decoder)
    (moves : List Move) :
    let traffic := (start config source decoder).run moves
    (∀ loop, traffic.controller.panel.isLive loop = true →
      ∃ place, traffic.Holds loop place ∧ ∀ other, traffic.Holds loop other → other = place) ∧
    (traffic.isQuiet = true → traffic.Settled) := by
  intro traffic
  have sound : traffic.Sound := (sound_start config source decoder).run moves
  refine ⟨?_, sound.settled⟩
  intro loop live
  obtain ⟨place, held⟩ := sound.exists_place live
  exact ⟨place, held, fun other again => sound.place_unique held again⟩

def alternating : List Move :=
  [.event (.willAppear "key" .null), .event (.willAppear "key" .null), .advance 0, .advance 1,
    .advance 0, .advance 1, .advance 0, .tick 0, .advance 1, .tick 1, .advance 0, .advance 1,
    .advance 0, .advance 1]

theorem settled_after_alternating :
    let traffic := (start {} {} Artwork.decode?).run alternating
    traffic.controller.panel.isLive 1 = true ∧ traffic.isQuiet = true ∧
      (∃ place, traffic.Holds 1 place ∧ ∀ other, traffic.Holds 1 other → other = place) ∧
      traffic.Settled := by
  have live : ((start {} {} Artwork.decode?).run alternating).controller.panel.isLive 1 = true := by
    decide +kernel
  have quiet : ((start {} {} Artwork.decode?).run alternating).isQuiet = true := by decide +kernel
  obtain ⟨owned, settled⟩ := owned_in_one_place {} {} Artwork.decode? alternating
  exact ⟨live, quiet, owned 1 live, settled quiet⟩

end Traffic

end Marquee
