import Marquee.Proofs.Deck.Map

/-!
The periods of the loops. Each loop there has ever been was started for settings that an event told
for its button, and its period is the one that these ask for.
-/

namespace Marquee

namespace Panel

def courses (panel : Panel) : List (Nat × Nat) :=
  panel.loops.map fun loop => (loop.face, loop.period)

theorem courses_startLoop (panel : Panel) (face period : Nat) :
    (panel.startLoop face period).1.courses = panel.courses ++ [(face, period)] := by
  simp [courses, startLoop]

theorem courses_endLoop? (panel : Panel) (loop : Option Nat) :
    (panel.endLoop? loop).courses = panel.courses := by
  cases loop with
  | none => rfl
  | some number =>
      apply List.ext_getElem?
      intro index
      simp only [courses, endLoop?, endLoop, List.getElem?_map, List.getElem?_modify]
      split <;> cases panel.loops[index]? <;> rfl

theorem courses_pass (panel : Panel) (media : NowPlaying) (target : Target) (number : Nat) :
    (panel.pass media target number).courses = panel.courses := by
  rcases panel.pass_cases media target number with same | ⟨loop, face, found, _, _, passed⟩
  · rw [same]
  · obtain ⟨bound, rfl⟩ := List.getElem?_eq_some_iff.mp found
    have same := @List.set_getElem_self _ panel.courses number (by simpa [courses] using bound)
    simp only [courses, List.getElem_map] at same
    rw [passed, courses, courses, List.map_set]
    exact same

theorem courses_markAll (panel : Panel) (faces : List Nat) :
    (panel.markAll faces).courses = panel.courses := by
  induction faces generalizing panel with
  | nil => rfl
  | cons face rest ih => exact ih (panel.changeFace face Face.markDirty)

end Panel

namespace Controller

structure Even (before after : Controller) : Prop where
  animation : after.animation = before.animation
  courses : after.panel.courses = before.panel.courses
  keeps : Panel.Keeps before.panel after.panel

theorem Even.refl (controller : Controller) : Even controller controller :=
  ⟨rfl, rfl, Panel.Keeps.refl _⟩

theorem Even.trans {first second third : Controller} (earlier : Even first second)
    (later : Even second third) : Even first third :=
  ⟨later.animation.trans earlier.animation, later.courses.trans earlier.courses,
    earlier.keeps.trans later.keeps⟩

theorem even_note (controller : Controller) (level : Log.Level) (message : String)
    (values : List (String × Log.Value)) : Even controller (controller.note level message values) :=
  ⟨rfl, rfl, Panel.Keeps.refl _⟩

theorem even_published (controller : Controller) (result : Sampler × Bool) :
    Even controller (controller.published result) := by
  obtain ⟨sampler, changed⟩ := result
  cases changed with
  | false => exact ⟨rfl, rfl, Panel.Keeps.refl _⟩
  | true => exact ⟨rfl, Panel.courses_markAll _ _, Panel.keeps_markAll _ _⟩

theorem even_deliver (controller : Controller) (change : MediaChange) (between : List SourceEdit) :
    Even controller (controller.deliver change between) := by
  unfold deliver
  exact even_published controller _

theorem even_refresh (controller : Controller) : Even controller controller.refresh.1 := by
  unfold refresh
  exact even_published controller _

theorem even_pass (controller : Controller) (loop : Nat) :
    Even controller (controller.pass loop) :=
  ⟨rfl, Panel.courses_pass _ _ _ _, Panel.keeps_pass _ _ _ _⟩

theorem even_endLoop? (controller : Controller) (loop : Option Nat) :
    Even controller (controller.endLoop? loop) :=
  ⟨rfl, Panel.courses_endLoop? _ _, Panel.keeps_endLoop? _ _⟩

theorem even_takeOver (controller : Controller) (context : String) :
    Even controller (controller.takeOver context).1 := by
  have keeps := controller.keeps_takeOver context
  cases found : controller.registry.find? context with
  | none =>
      rw [takeOver_absent found] at keeps ⊢
      exact ⟨rfl, rfl, keeps⟩
  | some entry =>
      rw [takeOver_found found] at keeps ⊢
      exact ⟨rfl, rfl, keeps⟩

theorem even_install (controller : Controller) (context : String) (face loop : Nat) :
    Even controller (controller.install context face loop).1 := by
  rcases controller.install_cases context face loop with ⟨_, _, _, installed⟩ | ⟨_, rejected⟩
  · rw [installed]
    exact ⟨rfl, rfl, Panel.Keeps.refl _⟩
  · rw [rejected]
    exact Even.refl controller

theorem even_noteStarted (controller : Controller) (context : String) (period : Nat)
    (installed : Bool) : Even controller (controller.noteStarted context period installed) := by
  cases installed <;> exact even_note _ _ _ _

theorem even_changeFont (controller : Controller) (context : String) (size : Nat) :
    Even controller (controller.changeFont context size) := by
  unfold changeFont
  split
  · exact ⟨rfl, rfl, Panel.keeps_changeFace _ _ fun _ => rfl⟩
  · exact even_note controller _ _ _

theorem even_message (controller : Controller) {raw : String} {fault : Json.Fault}
    (unread : HostEvent.read raw = .error fault) :
    Even controller (controller.handleMessage raw) := by
  unfold handleMessage
  rw [unread]
  exact even_note controller _ _ _

/-- Giving a button a loop starts one with the period of the settings, after any others that the
host had started meanwhile. -/
theorem period_configure (controller : Controller) (inside : Controller → Controller)
    (context : String) (settings : Json) :
    ((controller.configure inside context settings).panel.loops.getLast?).map Loop.period =
      some (controller.periodFor settings) := by
  let taken := controller.takeOver context
  let ended := taken.1.endFormer inside taken.2.2
  let spawned := ended.spawn context taken.2.1 (controller.periodFor settings)
  let passed := spawned.1.pass spawned.2
  let installed := passed.install context taken.2.1 spawned.2
  have even : Even spawned.1 (controller.configure inside context settings) :=
    (even_pass spawned.1 spawned.2).trans ((even_install passed _ _ _).trans
      ((even_endLoop? installed.1 installed.2.2).trans (even_noteStarted _ _ _ _)))
  have started : spawned.1.panel.courses =
      ended.panel.courses ++ [(taken.2.1, controller.periodFor settings)] :=
    Panel.courses_startLoop ended.panel _ _
  have last := congrArg List.getLast? (even.courses.trans started)
  rw [Panel.courses, List.getLast?_map, List.getLast?_concat] at last
  obtain ⟨loop, present, same⟩ := Option.map_eq_some_iff.mp last
  rw [present, Option.map_some]
  exact congrArg some (congrArg Prod.snd same)

end Controller

structure Call.Follows (config : AnimationConfig) (told : List (String × Json)) (call : Call) :
    Prop where
  asked : ∀ context settings, call = .appear context settings ∨ call = .settings context settings →
    (context, settings) ∈ told
  job : ∀ job, call.job? = some job → ∃ settings, (job.context, settings) ∈ told ∧
    job.period = (ButtonSettings.ofJson settings).period config.period

namespace Call

variable {config : AnimationConfig} {told : List (String × Json)} {call next : Call}

theorem Follows.more (follows : call.Follows config told) (more : List (String × Json)) :
    call.Follows config (told ++ more) := by
  refine ⟨fun context settings same => List.mem_append_left _ (follows.asked context settings same),
    ?_⟩
  intro job known
  obtain ⟨settings, member, period⟩ := follows.job job known
  exact ⟨settings, List.mem_append_left _ member, period⟩

/-- A call that neither asks for a loop nor is about to start one follows anything. -/
theorem follows_idle (unasking : ∀ context settings, call ≠ .appear context settings ∧
    call ≠ .settings context settings) (jobless : call.job? = none) : call.Follows config told := by
  refine ⟨?_, ?_⟩
  · rintro context settings (same | same)
    · exact absurd same (unasking context settings).1
    · exact absurd same (unasking context settings).2
  · intro job known
    rw [jobless] at known
    cases known

theorem Follows.goOn {job : Job} (follows : call.Follows config told)
    (known : call.job? = some job) (same : next.job? = some job) : next.Follows config told := by
  refine ⟨?_, ?_⟩
  · rintro context settings (rfl | rfl) <;> cases same
  · intro other otherKnown
    rw [same] at otherKnown
    cases otherKnown
    exact follows.job job known

end Call

namespace Controller

variable {config : AnimationConfig} {told : List (String × Json)} {controller : Controller}

/-- Only the section that starts a loop brings in a new period. -/
theorem even_advance (controller : Controller) {call : Call} (other : ∀ job, call ≠ .starting job) :
    Even controller (controller.advance call).1 := by
  cases call with
  | appear context settings =>
      exact (even_note controller .debug "button appeared" [("context", .text context)]).trans
        (even_takeOver _ context)
  | settings context settings =>
      exact (even_note controller .debug "button settings received"
        [("context", .text context)]).trans (even_takeOver _ context)
  | ending job former => exact even_endLoop? controller former
  | starting job => exact absurd rfl (other job)
  | installing job loop => exact even_install controller job.context job.face loop
  | closing job installed rejected =>
      exact (even_endLoop? controller rejected).trans (even_noteStarted _ _ _ _)
  | disappear context =>
      cases found : controller.registry.find? context with
      | none =>
          rw [advance_disappear_absent found]
          exact Even.refl controller
      | some entry =>
          rw [advance_disappear_found found]
          exact ⟨rfl, rfl, Panel.Keeps.refl _⟩
  | leaving context loop =>
      exact (even_endLoop? controller loop).trans (even_note _ .debug "button disappeared" _)
  | shutdown => exact ⟨rfl, rfl, Panel.Keeps.refl _⟩
  | draining => exact ⟨rfl, rfl, Panel.Keeps.refl _⟩
  | emptying loops =>
      cases loops with
      | nil => exact Even.refl controller
      | cons loop rest => exact even_endLoop? controller (some loop)
  | returned => exact Even.refl controller

theorem follows_enter (controller : Controller) (configured : controller.animation = config)
    {context : String} {settings : Json} (known : (context, settings) ∈ told) :
    (controller.enter context settings).2.Follows config told := by
  refine ⟨?_, ?_⟩
  · rintro _ _ (same | same) <;> cases same
  · intro job same
    cases same
    exact ⟨settings, known, by rw [periodFor, configured]⟩

theorem follows_advance (configured : controller.animation = config) {call : Call}
    (follows : call.Follows config told) : (controller.advance call).2.Follows config told := by
  cases call with
  | appear context settings =>
      let noted := controller.note .debug "button appeared" [("context", .text context)]
      exact follows_enter noted configured (follows.asked _ _ (Or.inl rfl))
  | settings context settings =>
      let noted := controller.note .debug "button settings received" [("context", .text context)]
      exact follows_enter noted configured (follows.asked _ _ (Or.inr rfl))
  | ending job former => exact follows.goOn rfl rfl
  | starting job => exact follows.goOn rfl rfl
  | installing job loop => exact follows.goOn rfl rfl
  | disappear context =>
      cases found : controller.registry.find? context with
      | none =>
          rw [advance_disappear_absent found]
          exact Call.follows_idle (fun _ _ => ⟨nofun, nofun⟩) rfl
      | some entry =>
          rw [advance_disappear_found found]
          exact Call.follows_idle (fun _ _ => ⟨nofun, nofun⟩) rfl
  | emptying loops => cases loops <;> exact Call.follows_idle (fun _ _ => ⟨nofun, nofun⟩) rfl
  | _ => exact Call.follows_idle (fun _ _ => ⟨nofun, nofun⟩) rfl

end Controller

namespace Traffic

def Move.tells? : Move → Option (String × Json)
  | .event told => told.configures?
  | .message raw => (HostEvent.read raw).toOption.bind HostEvent.configures?
  | _ => none

structure Paced (config : AnimationConfig) (told : List (String × Json)) (traffic : Traffic) :
    Prop where
  animation : traffic.controller.animation = config
  loops : ∀ face period, (face, period) ∈ traffic.controller.panel.courses →
    ∃ context settings, (context, settings) ∈ told ∧
      traffic.controller.panel.contextOf face = some context ∧
      period = (ButtonSettings.ofJson settings).period config.period
  calls : ∀ call ∈ traffic.calls, call.Follows config told

variable {config : AnimationConfig} {told : List (String × Json)} {traffic : Traffic}

theorem Paced.even (paced : traffic.Paced config told) {after : Controller}
    (even : Controller.Even traffic.controller after) :
    Paced config told { traffic with controller := after } := by
  refine ⟨even.animation.trans paced.animation, ?_, paced.calls⟩
  intro face period member
  rw [even.courses] at member
  obtain ⟨context, settings, known, whose, same⟩ := paced.loops face period member
  exact ⟨context, settings, known, even.keeps.context whose, same⟩

theorem Paced.more (paced : traffic.Paced config told) (more : List (String × Json)) :
    traffic.Paced config (told ++ more) := by
  refine ⟨paced.animation, ?_, fun call member => (paced.calls call member).more more⟩
  intro face period member
  obtain ⟨context, settings, known, rest⟩ := paced.loops face period member
  exact ⟨context, settings, List.mem_append_left _ known, rest⟩

theorem Paced.begin (paced : traffic.Paced config told) {call : Call}
    (follows : call.Follows config told) : (traffic.begin call).Paced config told := by
  refine ⟨paced.animation, paced.loops, ?_⟩
  intro other member
  rcases List.mem_append.mp member with known | new
  · exact paced.calls other known
  · exact List.mem_singleton.mp new ▸ follows

theorem Paced.advance (paced : traffic.Paced config told) (sound : traffic.Sound) (number : Nat) :
    (traffic.advance number).Paced config told := by
  cases found : traffic.calls[number]? with
  | none =>
      rw [advance_absent found]
      exact paced
  | some call =>
      have member := List.mem_of_getElem? found
      have next := Controller.follows_advance paced.animation (paced.calls call member)
      have kept : ∀ other ∈ traffic.calls.set number (traffic.controller.advance call).2,
          other.Follows config told := by
        intro other among
        rcases List.mem_or_eq_of_mem_set among with old | new
        · exact paced.calls other old
        · exact new ▸ next
      rw [advance_found found]
      by_cases starts : ∃ job, call = .starting job
      · obtain ⟨job, rfl⟩ := starts
        have keeps := Controller.keeps_advance traffic.controller (.starting job)
        refine ⟨paced.animation, ?_, kept⟩
        intro face period course
        have courses : (traffic.controller.advance (.starting job)).1.panel.courses =
            traffic.controller.panel.courses ++ [(job.face, job.period)] :=
          Panel.courses_startLoop traffic.controller.panel _ _
        rw [courses] at course
        rcases List.mem_append.mp course with old | new
        · obtain ⟨context, settings, known, whose, same⟩ := paced.loops face period old
          exact ⟨context, settings, known, keeps.context whose, same⟩
        · cases List.mem_singleton.mp new
          obtain ⟨settings, known, same⟩ := (paced.calls _ member).job job rfl
          exact ⟨job.context, settings, known,
            keeps.context ((sound.calls _ member).context rfl), same⟩
      · have even := traffic.controller.even_advance fun job same => starts ⟨job, same⟩
        have after := paced.even even
        exact ⟨after.animation, after.loops, kept⟩

theorem Paced.event (paced : traffic.Paced config told) (event : HostEvent) :
    (traffic.event event).Paced config (told ++ event.configures?.toList) := by
  cases event with
  | willAppear context settings =>
      refine (paced.more _).begin ⟨?_, nofun⟩
      rintro _ _ (same | same) <;> cases same
      exact List.mem_append_right _ (List.mem_singleton_self _)
  | didReceiveSettings context settings =>
      refine (paced.more _).begin ⟨?_, nofun⟩
      rintro _ _ (same | same) <;> cases same
      exact List.mem_append_right _ (List.mem_singleton_self _)
  | willDisappear context =>
      exact (paced.more _).begin (Call.follows_idle (fun _ _ => ⟨nofun, nofun⟩) rfl)
  | titleParametersDidChange context size =>
      exact (paced.more _).even (Controller.even_changeFont _ context size)
  | unknown name => exact (paced.more _).even (Controller.even_note _ _ _ _)
  | _ => exact paced.more _

theorem Paced.step (paced : traffic.Paced config told) (sound : traffic.Sound) (move : Move) :
    (traffic.step move).Paced config (told ++ move.tells?.toList) := by
  cases move with
  | event event => exact paced.event event
  | message raw =>
      simp only [Traffic.step, Move.tells?]
      cases read : HostEvent.read raw with
      | ok event => exact paced.event event
      | error fault => exact (paced.more _).even (Controller.even_message _ read)
  | shutdown =>
      exact (paced.more _).begin (Call.follows_idle (fun _ _ => ⟨by simp, by simp⟩) rfl)
  | advance number => exact (paced.more _).advance sound number
  | tick loop => exact (paced.more _).even (Controller.even_pass _ loop)
  | source edit => exact (paced.more _).even ⟨rfl, rfl, Panel.Keeps.refl _⟩
  | deliver change between => exact (paced.more _).even (Controller.even_deliver _ change between)
  | refresh => exact (paced.more _).even (Controller.even_refresh _)

theorem Paced.run (paced : traffic.Paced config told) (sound : traffic.Sound) (moves : List Move) :
    (traffic.run moves).Paced config (told ++ moves.filterMap Move.tells?) := by
  induction moves generalizing traffic told with
  | nil => exact paced.more _
  | cons move rest ih =>
      have after := ih (paced.step sound move) (sound.yields (traffic.yields_step move))
      have split : (move :: rest).filterMap Move.tells? =
          move.tells?.toList ++ rest.filterMap Move.tells? := by
        rw [List.filterMap_cons]
        cases move.tells? <;> rfl
      rw [split, ← List.append_assoc]
      exact after

theorem paced_start (config : Config) (source : Source) (decoder : Artwork.Decoder) :
    (start config source decoder).Paced config.animation [] := by
  let sampler : Sampler :=
    { source := source, format := config.titleFormat, edge := artworkEdge config.artwork
      decoder := decoder }
  have blank : Paced config.animation []
      ⟨{ animation := config.animation, sampler := sampler }, []⟩ := ⟨rfl, nofun, nofun⟩
  exact blank.even ((Controller.even_published _ _).trans (Controller.even_note _ _ _ _))

end Traffic

end Marquee
