import Marquee.Proofs.Deck.Projection
import Marquee.Proofs.Scrolling.Walk

/-!
What the host gets for a button is one draw after another: a title, or an image and then a title,
for each pass that the loop of the button makes while the button has room for characters. A loop
keeps its offset until it makes a pass itself, so that the titles of one loop go on from each other.
-/

namespace Marquee

structure Draw where
  loop : Nat
  media : NowPlaying
  width : Nat
  /-- Whether the flag of the button was raised. -/
  pending : Bool
  sent : List HostCall
  next : Nat
deriving DecidableEq, Repr

namespace Draw

def Sends (draw : Draw) (context : String) (target : Target) (text : String) : Prop :=
  draw.sent = (if draw.pending then [.setImage context draw.media.image target] else []) ++
    [.setTitle context text target]

def frame (draw : Draw) (tick : Nat) : Scroll.Frame :=
  Scroll.advance draw.media.title draw.width (if draw.pending then 0 else tick)

structure Follows (draw : Draw) (context : String) (target : Target) (tick : Nat) : Prop where
  room : draw.width ≠ 0
  sends : draw.Sends context target (draw.frame tick).visible
  next : draw.next = (draw.frame tick).next

variable {draw : Draw} {context : String} {target : Target}

theorem Sends.unique {text other : String} (sends : draw.Sends context target text)
    (again : draw.Sends context target other) : text = other := by
  unfold Sends at sends again
  rw [sends] at again
  have same := List.append_cancel_left again
  simpa using same

theorem frame_untitled (untitled : draw.media.title = "") (tick : Nat) :
    draw.frame tick = Scroll.Frame.blank := by
  rw [frame, untitled, Scroll.advance_untitled]

theorem length_frame (titled : draw.media.title ≠ "") (room : draw.width ≠ 0) (tick : Nat) :
    (draw.frame tick).visible.length = draw.width := Scroll.length_frameAt titled room _ 0

theorem frame_empty_iff (room : draw.width ≠ 0) (tick : Nat) :
    (draw.frame tick).visible = "" ↔ draw.media.title = "" := by
  constructor
  · intro empty
    by_contra titled
    have full := draw.length_frame titled room tick
    rw [empty] at full
    exact room full.symm
  · intro untitled
    rw [frame_untitled untitled]
    rfl

theorem frame_pending (titled : draw.media.title ≠ "") (room : draw.width ≠ 0)
    (pending : draw.pending = true) (tick : Nat) :
    draw.frame tick = ⟨String.ofList (List.replicate draw.width ' '), 1⟩ := by
  have blank := Scroll.window_blank
    (Nat.zero_le (Scroll.lastStart draw.media.title.toList draw.width)) (Or.inl rfl)
  rw [frame, pending, if_pos rfl, Scroll.advance_eq_frameOf titled room,
    Scroll.start_of_le (Nat.zero_le _), Scroll.frameOf, blank]

/-- The frame of a draw with no flag raised goes on from the frame that left its offset. -/
theorem frame_next {first second : Draw} {tick : Nat} (room : second.width ≠ 0)
    (steady : second.pending = false) (title : second.media.title = first.media.title)
    (width : second.width = first.width) :
    (second.frame (first.frame tick).next).visible.toList.dropLast =
      (first.frame tick).visible.toList.tail := by
  by_cases titled : first.media.title = ""
  · rw [frame_untitled titled, frame_untitled (title.trans titled)]
    rfl
  · have bound := Scroll.start_le_lastStart first.media.title.toList first.width
    rw [width] at room
    rw [frame, frame, steady, title, width, Scroll.advance_eq_frameOf titled room,
      Scroll.advance_eq_frameOf titled room]
    simp only [Scroll.frameOf, String.toList_ofList, Bool.false_eq_true, if_false]
    exact Scroll.window_next (bound _)

end Draw

theorem Scene.draw_frame (scene : Scene) (target : Target) (tick : Nat)
    (room : scene.face.width ≠ 0) :
    let drawn := scene.draw target undisturbed tick
    let frame := Scroll.advance scene.media.title scene.face.width
      (if scene.face.isDirty then 0 else tick)
    drawn.sent = (if scene.face.isDirty then
        [.setImage scene.face.context scene.media.image target] else []) ++
          [.setTitle scene.face.context frame.visible target] ∧
      drawn.next = frame.next := by
  unfold Face.isDirty ChangeFlag.isSet
  cases pending : scene.face.flag.pending with
  | none =>
      rw [draw_steady scene target tick room pending]
      exact ⟨rfl, rfl⟩
  | some generation =>
      rw [draw_pending scene target tick room pending]
      exact ⟨rfl, rfl⟩

namespace Panel

structure Runs (panel : Panel) (loop : Nat) (context : String) (pace : Nat × Nat) : Prop where
  whose : panel.buttonOf loop = some context
  pace : panel.paceOf loop = some pace

theorem Keeps.buttonOf {before after : Panel} (keeps : Keeps before after) {loop : Nat}
    {context : String} (whose : before.buttonOf loop = some context) :
    after.buttonOf loop = some context := by
  obtain ⟨face, drawn, known⟩ := Option.bind_eq_some_iff.mp whose
  exact Option.bind_eq_some_iff.mpr ⟨face, keeps.face drawn, keeps.context known⟩

theorem paceOf_endLoops (panel : Panel) (ended : List Nat) (loop : Nat) :
    (panel.endLoops ended).paceOf loop = panel.paceOf loop := by
  induction ended generalizing panel with
  | nil => rfl
  | cons first rest ih => exact (ih (panel.endLoop first)).trans (panel.paceOf_endLoop first loop)

theorem keeps_endLoops (panel : Panel) (ended : List Nat) : Keeps panel (panel.endLoops ended) := by
  induction ended generalizing panel with
  | nil => exact Keeps.refl panel
  | cons first rest ih => exact (panel.keeps_endLoop? (some first)).trans (ih (panel.endLoop first))

end Panel

namespace Controller

/-- The draw that a turn makes for a button, if it makes one: the turn is a pass of the button's
loop, and the button has room. -/
def draw? (controller : Controller) (context : String) : Turn → Option Draw
  | .tick owner =>
    if owner = context then
      match controller.loopAt context, controller.buttonAt context with
      | some loop, some button =>
        let after := controller.tickAt context
        let sent := after.panel.sent.drop controller.panel.sent.length
        let next := ((after.buttonAt context).map Button.tick).getD 0
        if button.face.width = 0 then none
        else some ⟨loop, controller.media, button.face.width, button.face.isDirty, sent, next⟩
      | _, _ => none
    else none
  | _ => none

def draws (controller : Controller) (context : String) : List Turn → List Draw
  | [] => []
  | turn :: rest =>
    (controller.draw? context turn).toList ++ (controller.turn turn).draws context rest

end Controller

structure Draw.Made (draw : Draw) (before after : Controller) (context : String)
    (period tick : Nat) : Prop where
  follows : draw.Follows context before.animation.target tick
  runs : before.panel.Runs draw.loop context (period, tick)
  left : after.panel.Runs draw.loop context (period, draw.next)
  sent : after.sentTo context = before.sentTo context ++ draw.sent

namespace Controller

variable {controller : Controller} {context : String}

section Blank

def Blank (controller : Controller) (context : String) : Prop :=
  ∀ button, controller.buttonAt context = some button → button.face.width = 0

theorem Sound.aspect_blank (sound : controller.Sound) (blank : controller.Blank context) :
    (controller.tickAt context).aspect context = controller.aspect context := by
  rw [sound.aspect_tickAt]
  unfold Aspect.pass
  split
  · rfl
  · next button known =>
      rw [Scene.draw_blank _ _ _ (blank button known)]
      apply Aspect.ext
      · rfl
      · rfl
      · exact known.symm
      · exact List.append_nil _

theorem Sound.paceOf_blank (sound : controller.Sound) (blank : controller.Blank context)
    (loop : Nat) :
    (controller.tickAt context).panel.paceOf loop = controller.panel.paceOf loop := by
  cases found : controller.registry.find? context with
  | none => rw [tickAt_absent found]
  | some entry =>
      obtain ⟨number, running, face, ticks⟩ := sound.ticks found
      by_cases same : loop = number
      · rw [same, ticks.pace_drawn, ticks.pace, drawing,
          Scene.draw_blank _ _ _ (blank _ ticks.button)]
      · exact ticks.pace_other same

theorem Sound.sent_blank (sound : controller.Sound) (blank : controller.Blank context) :
    (controller.tickAt context).panel.sent = controller.panel.sent := by
  cases found : controller.registry.find? context with
  | none => rw [tickAt_absent found]
  | some entry =>
      obtain ⟨number, running, face, ticks⟩ := sound.ticks found
      rw [ticks.sent, drawing, Scene.draw_blank _ _ _ (blank _ ticks.button), List.append_nil]

end Blank

theorem Ticks.draw?_eq {entry : Entry} {number : Nat} {loop : Loop} {face : Face}
    (ticks : Ticks controller (controller.tickAt context) context entry number loop face) :
    controller.draw? context (.tick context) =
      if face.width = 0 then none
      else some ⟨number, controller.media, face.width, face.isDirty,
        (controller.drawing face loop).sent, (controller.drawing face loop).next⟩ := by
  simp only [draw?, if_true, ticks.installed, ticks.button, ticks.button_drawn, ticks.sent,
    List.drop_left, Option.map_some, Option.getD_some]

theorem eq_tick_of_drawn {turn : Turn} {draw : Draw}
    (drawn : controller.draw? context turn = some draw) :
    turn = .tick context ∧ ∃ entry, controller.registry.find? context = some entry := by
  cases turn with
  | tick owner =>
      simp only [draw?] at drawn
      split at drawn
      · next own =>
          cases found : controller.registry.find? context with
          | none =>
              have absent : controller.loopAt context = none := by
                simp only [loopAt, found, Option.bind_none]
              rw [absent] at drawn
              cases drawn
          | some entry => exact ⟨own ▸ rfl, entry, rfl⟩
      · cases drawn
  | _ => cases drawn

theorem Sound.blank_of_undrawn (sound : controller.Sound)
    (undrawn : controller.draw? context (.tick context) = none) : controller.Blank context := by
  intro button known
  cases found : controller.registry.find? context with
  | none =>
      rw [buttonAt_absent found] at known
      cases known
  | some entry =>
      obtain ⟨number, loop, face, ticks⟩ := sound.ticks found
      rw [ticks.button] at known
      cases known
      by_contra room
      rw [ticks.draw?_eq, if_neg room] at undrawn
      cases undrawn

/-- The draw that a turn makes is one of the loop of the button: it begins at the offset that the
loop has, and it is all that the host gets for the button in this turn. -/
theorem Sound.made (sound : controller.Sound) {turn : Turn} {draw : Draw}
    (drawn : controller.draw? context turn = some draw) :
    ∃ period tick, draw.Made controller (controller.turn turn) context period tick := by
  obtain ⟨rfl, entry, found⟩ := eq_tick_of_drawn drawn
  obtain ⟨number, loop, face, ticks⟩ := sound.ticks found
  rw [ticks.draw?_eq] at drawn
  split at drawn
  · cases drawn
  · next room =>
      cases drawn
      have frame := Scene.draw_frame ⟨face, controller.media⟩ controller.animation.target loop.tick
        room
      have mine := Traffic.Sound.buttonOf_task sound found ticks.task
      have later := (calm_tickAt controller context).keeps.buttonOf mine
      have sent := ticks.sentTo context
      rw [if_pos rfl] at sent
      refine ⟨loop.period, loop.tick, ⟨room, ?_, frame.2⟩, ⟨mine, ticks.pace⟩,
        ⟨later, ticks.pace_drawn⟩, sent⟩
      rw [← ticks.whose]
      exact frame.1

section Undrawn

/-- Only passes draw. -/
theorem sent_turn (aspect : Aspect) (context : String) {turn : Turn}
    (steady : ∀ owner, turn ≠ .tick owner) : (aspect.turn context turn).sent = aspect.sent := by
  have answers : ∀ event, (aspect.answer context event).sent = aspect.sent := by
    intro event
    cases event <;> rfl
  have publishes : ∀ result, (aspect.published result).sent = aspect.sent := by
    intro result
    unfold Aspect.published
    split <;> rfl
  cases turn with
  | event event => exact answers event
  | message raw =>
      simp only [Aspect.turn]
      split
      · exact answers _
      · rfl
  | tick owner => exact absurd rfl (steady owner)
  | notify token change => exact publishes _
  | refresh => exact publishes _
  | _ => rfl

theorem Sound.sentTo_undrawn (sound : controller.Sound) {turn : Turn}
    (undrawn : controller.draw? context turn = none) :
    (controller.turn turn).sentTo context = controller.sentTo context := by
  have others : (∀ owner, turn ≠ .tick owner) →
      (controller.turn turn).sentTo context = controller.sentTo context := by
    intro steady
    have seen := congrArg Aspect.sent (sound.aspect_turn context turn)
    split at seen
    · exact seen.trans (sent_turn _ context steady)
    · exact seen
  cases turn with
  | tick owner =>
      by_cases own : owner = context
      · subst own
        exact congrArg Aspect.sent (sound.aspect_blank (sound.blank_of_undrawn undrawn))
      · exact congrArg Aspect.sent (sound.aspect_tickAt_other (Ne.symm own))
  | _ => exact others nofun

theorem keeps_restart (controller : Controller) (context : String) (settings : Json) :
    Panel.Keeps controller.panel (controller.restart context settings).panel := by
  rw [panel_restart]
  exact ((controller.keeps_takeOver context).trans (Panel.keeps_endLoop? _ _)).trans
    (Panel.keeps_startLoop _ _ _)

/-- Whatever a call of the host does, it leaves the loops that there are at their offsets. -/
theorem runs_answer (event : HostEvent) {loop : Nat} {pace : Nat × Nat}
    (runs : controller.panel.Runs loop context pace) :
    (controller.answer event).panel.Runs loop context pace := by
  cases event with
  | willAppear owner settings =>
      exact ⟨(keeps_restart _ owner settings).buttonOf runs.whose,
        paceOf_restart owner settings runs.pace⟩
  | didReceiveSettings owner settings =>
      exact ⟨(keeps_restart _ owner settings).buttonOf runs.whose,
        paceOf_restart owner settings runs.pace⟩
  | willDisappear owner =>
      simp only [answer, handleEvent]
      cases found : controller.registry.find? owner with
      | none =>
          rw [disappear_absent found]
          exact runs
      | some entry =>
          rw [disappear_found found]
          exact ⟨(controller.panel.keeps_endLoop? _).buttonOf runs.whose,
            (controller.panel.paceOf_endLoop? _ _).trans runs.pace⟩
  | titleParametersDidChange owner size =>
      refine ⟨(calm_changeFont controller owner size).keeps.buttonOf runs.whose, ?_⟩
      simp only [answer, handleEvent, changeFont]
      split <;> exact runs.pace
  | unknown name => exact ⟨runs.whose, runs.pace⟩
  | _ => exact runs

theorem runs_published (result : Sampler × Bool) {loop : Nat} {pace : Nat × Nat}
    (runs : controller.panel.Runs loop context pace) :
    (controller.published result).panel.Runs loop context pace := by
  refine ⟨(calm_published controller result).keeps.buttonOf runs.whose, ?_⟩
  obtain ⟨sampler, changed⟩ := result
  cases changed with
  | false => exact runs.pace
  | true => exact (controller.panel.paceOf_markAll _ _).trans runs.pace

/-- A loop keeps its offset in every turn that makes no draw for its button. -/
theorem Sound.runs_undrawn (sound : controller.Sound) {turn : Turn}
    (undrawn : controller.draw? context turn = none) {loop : Nat} {pace : Nat × Nat}
    (runs : controller.panel.Runs loop context pace) :
    (controller.turn turn).panel.Runs loop context pace := by
  cases turn with
  | event event => exact runs_answer event runs
  | message raw =>
      simp only [Controller.turn]
      cases read : HostEvent.read raw with
      | ok event => exact runs_answer event runs
      | error fault =>
          simp only [handleMessage, read]
          exact ⟨runs.whose, runs.pace⟩
  | shutdown =>
      exact ⟨(controller.panel.keeps_endLoops _).buttonOf runs.whose,
        (controller.panel.paceOf_endLoops _ _).trans runs.pace⟩
  | tick owner =>
      refine ⟨(calm_tickAt controller owner).keeps.buttonOf runs.whose, ?_⟩
      by_cases own : owner = context
      · subst own
        exact (sound.paceOf_blank (sound.blank_of_undrawn undrawn) loop).trans runs.pace
      · cases found : controller.registry.find? owner with
        | none =>
            simp only [Controller.turn, tickAt_absent found]
            exact runs.pace
        | some entry =>
            obtain ⟨number, _, _, ticks⟩ := sound.ticks found
            -- The loop that makes the pass is not one of this button.
            have apart : loop ≠ number := by
              intro same
              have whose := Traffic.Sound.buttonOf_task sound found ticks.task
              rw [← same, runs.whose] at whose
              exact own (Option.some.inj whose).symm
            exact (ticks.pace_other apart).trans runs.pace
  | source edit => exact runs
  | notify token change => exact runs_published _ runs
  | refresh => exact runs_published _ runs

end Undrawn

theorem Sound.draws_sent (sound : controller.Sound) (context : String) (turns : List Turn) :
    (controller.turns turns).sentTo context =
      controller.sentTo context ++ (controller.draws context turns).flatMap Draw.sent := by
  induction turns generalizing controller with
  | nil => exact (List.append_nil _).symm
  | cons turn rest ih =>
      have later := ih (sound.turn turn)
      change ((controller.turn turn).turns rest).sentTo context = _
      rw [draws, List.flatMap_append, ← List.append_assoc]
      cases drawn : controller.draw? context turn with
      | none =>
          rw [sound.sentTo_undrawn drawn] at later
          simpa using later
      | some draw =>
          obtain ⟨_, _, made⟩ := sound.made drawn
          rw [made.sent] at later
          simpa using later

/-- Every draw of a run is a title, or an image and a title. -/
theorem Sound.draws_follow (sound : controller.Sound) {turns : List Turn} {draw : Draw}
    (member : draw ∈ controller.draws context turns) :
    ∃ tick, draw.Follows context controller.animation.target tick := by
  induction turns generalizing controller with
  | nil => cases member
  | cons turn rest ih =>
      rcases List.mem_append.mp member with first | later
      · obtain ⟨_, tick, made⟩ := sound.made (Option.mem_toList.mp first)
        exact ⟨tick, made.follows⟩
      · have known := ih (sound.turn turn) later
        rw [sound.animation_turn turn] at known
        exact known

/-- The next draw that a loop makes begins at the offset that the loop has now. -/
theorem Sound.draws_next (sound : controller.Sound) {turns : List Turn} {draw : Draw}
    {rest : List Draw} (first : controller.draws context turns = draw :: rest) {period tick : Nat}
    (runs : controller.panel.Runs draw.loop context (period, tick)) :
    draw.Follows context controller.animation.target tick := by
  induction turns generalizing controller with
  | nil => cases first
  | cons turn later ih =>
      rw [draws] at first
      cases drawn : controller.draw? context turn with
      | none =>
          rw [drawn] at first
          have follows := ih (sound.turn turn) first (sound.runs_undrawn drawn runs)
          rw [sound.animation_turn turn] at follows
          exact follows
      | some made =>
          rw [drawn] at first
          obtain ⟨rfl, _⟩ := List.cons.inj first
          obtain ⟨_, _, facts⟩ := sound.made drawn
          cases facts.runs.pace.symm.trans runs.pace
          exact facts.follows

/-- Of two draws in a row by one loop, the second begins at the offset that the first left. -/
theorem Sound.draws_consecutive (sound : controller.Sound) {turns : List Turn}
    {before rest : List Draw} {first second : Draw}
    (split : controller.draws context turns = before ++ first :: second :: rest)
    (same : second.loop = first.loop) :
    ∃ tick, first.Follows context controller.animation.target tick ∧
      second.Follows context controller.animation.target first.next := by
  induction turns generalizing controller before with
  | nil => simp [draws] at split
  | cons turn later ih =>
      have onward : ∀ {earlier : List Draw},
          (controller.turn turn).draws context later = earlier ++ first :: second :: rest →
          ∃ tick, first.Follows context controller.animation.target tick ∧
            second.Follows context controller.animation.target first.next := by
        intro earlier split
        have known := ih (sound.turn turn) split
        rw [sound.animation_turn turn] at known
        exact known
      rw [draws] at split
      cases drawn : controller.draw? context turn with
      | none =>
          rw [drawn] at split
          exact onward split
      | some made =>
          rw [drawn] at split
          cases before with
          | cons _ earlier => exact onward (List.cons.inj split).2
          | nil =>
              obtain ⟨rfl, next⟩ := List.cons.inj split
              obtain ⟨_, tick, facts⟩ := sound.made drawn
              have follows := (sound.turn turn).draws_next next (same ▸ facts.left)
              rw [sound.animation_turn turn] at follows
              exact ⟨tick, facts.follows, follows⟩

/-- A turn makes a draw just where it is a pass of the loop of a button that has room. -/
theorem Sound.draw?_isSome_iff (sound : controller.Sound) (context : String) (turn : Turn) :
    (controller.draw? context turn).isSome = true ↔
      turn = .tick context ∧ ∃ width, controller.textWidth? context = some width ∧ width ≠ 0 := by
  rw [sound.textWidth?_eq]
  constructor
  · intro drawn
    obtain ⟨draw, known⟩ := Option.isSome_iff_exists.mp drawn
    obtain ⟨rfl, entry, found⟩ := eq_tick_of_drawn known
    obtain ⟨number, loop, face, ticks⟩ := sound.ticks found
    rw [ticks.draw?_eq] at drawn
    refine ⟨rfl, face.width, by rw [ticks.button, Option.map_some], ?_⟩
    intro roomless
    rw [if_pos roomless] at drawn
    cases drawn
  · rintro ⟨rfl, width, known, room⟩
    obtain ⟨button, standing, rfl⟩ := Option.map_eq_some_iff.mp known
    by_contra undrawn
    exact room (sound.blank_of_undrawn (Option.not_isSome_iff_eq_none.mp undrawn) button standing)

/-- The stream of a button. Whatever else happens, what the host got for a button is one draw after
another, each made by a pass of the loop of the button while it had room. A draw is a title, or an
image and a title of the same media if the flag was raised, in which case the title starts over; the
title fills the width, or is empty where there is none. Where nothing changed between two draws of
one loop, the title moved on by one character. A pass without room changes nothing. -/
theorem stream_of_draws (config : Config) (source : Source) (decoder : Artwork.Decoder)
    (turns : List Turn) (context : String) :
    let start := Controller.start config source decoder
    let controller := start.turns turns
    let draws := start.draws context turns
    let target := config.animation.target
    controller.sentTo context = draws.flatMap Draw.sent ∧
    (∀ turn, (controller.draw? context turn).isSome = true ↔
      turn = .tick context ∧ ∃ width, controller.textWidth? context = some width ∧ width ≠ 0) ∧
    (∀ draw ∈ draws, ∃ text, draw.Sends context target text ∧
      (text = "" ↔ draw.media.title = "") ∧
      (draw.media.title ≠ "" → text.length = draw.width) ∧
      (draw.pending = true → draw.media.title ≠ "" →
        text = String.ofList (List.replicate draw.width ' ') ∧ draw.next = 1)) ∧
    (∀ before first second rest firstText secondText,
      draws = before ++ first :: second :: rest → second.loop = first.loop →
      second.pending = false → second.media.title = first.media.title →
      second.width = first.width → first.Sends context target firstText →
      second.Sends context target secondText →
      secondText.toList.dropLast = firstText.toList.tail) ∧
    (controller.textWidth? context = some 0 →
      (controller.turn (.tick context)).panel.sent = controller.panel.sent ∧
      (controller.turn (.tick context)).buttonAt context = controller.buttonAt context) := by
  intro start controller draws target
  have begun : start.Sound := start_sound config source decoder
  have sound : controller.Sound := begun.turns turns
  have empty : start.panel.sent = [] := by
    simp only [start, Controller.start, published]
    split <;> rfl
  have aims : start.animation.target = target := by
    simp only [start, Controller.start, published]
    split <;> rfl
  refine ⟨?_, sound.draw?_isSome_iff context, ?_, ?_, ?_⟩
  · have sent := begun.draws_sent context turns
    have none : start.sentTo context = [] := by rw [sentTo, empty, List.filter_nil]
    rw [none, List.nil_append] at sent
    exact sent
  · intro draw member
    obtain ⟨tick, follows⟩ := begun.draws_follow member
    rw [aims] at follows
    refine ⟨_, follows.sends, Draw.frame_empty_iff follows.room tick,
      fun titled => Draw.length_frame titled follows.room tick, ?_⟩
    intro pending titled
    have blank := Draw.frame_pending titled follows.room pending tick
    rw [follows.next, blank]
    exact ⟨rfl, rfl⟩
  · intro before first second rest firstText secondText split same steady title width sends again
    obtain ⟨tick, earlier, later⟩ := begun.draws_consecutive split same
    rw [aims] at earlier later
    rw [sends.unique earlier.sends, again.unique later.sends, earlier.next]
    exact Draw.frame_next later.room steady title width
  · intro roomless
    have blank : controller.Blank context := by
      intro button known
      rw [sound.textWidth?_eq, known] at roomless
      exact Option.some.inj roomless
    exact ⟨sound.sent_blank blank, congrArg Aspect.button (sound.aspect_blank blank)⟩

def songShown : List Turn :=
  [.source (.current (some ⟨"session", "Song", "Singer", .playing⟩)), .refresh,
    .event (.willAppear "key" .null), .event (.titleParametersDidChange "key" 36), .tick "key",
    .tick "key"]

theorem stream_of_draws_song :
    let start := Controller.start {} {} Artwork.decode?
    let roomless := start.turns (songShown.take 3)
    ∃ first second,
      start.draws "key" songShown = [first, second] ∧ second.loop = first.loop ∧
      first.pending = true ∧ first.media.title ≠ "" ∧ first.next = 1 ∧
      second.pending = false ∧ second.media.title = first.media.title ∧
      second.width = first.width ∧
      first.Sends "key" .both "    " ∧ second.Sends "key" .both "   S" ∧
      "   S".toList.dropLast = "    ".toList.tail ∧
      roomless.textWidth? "key" = some 0 ∧
      (roomless.turn (.tick "key")).panel.sent = roomless.panel.sent := by
  intro start roomless
  let media := (start.turns (songShown.take 2)).media
  let first : Draw := ⟨0, media, 4, true,
    [.setImage "key" media.image .both, .setTitle "key" "    " .both], 1⟩
  let second : Draw := ⟨0, media, 4, false, [.setTitle "key" "   S" .both], 2⟩
  have drawn : start.draws "key" songShown = [first, second] := by decide +kernel
  have titled : first.media.title ≠ "" := by decide +kernel
  have blank : roomless.textWidth? "key" = some 0 := by decide +kernel
  obtain ⟨_, _, shaped, moved, _⟩ := stream_of_draws {} {} Artwork.decode? songShown "key"
  obtain ⟨_, _, _, _, starts⟩ := shaped first (drawn ▸ List.mem_cons_self)
  have goesOn := moved [] first second [] "    " "   S" drawn rfl rfl rfl rfl rfl rfl
  have still := (stream_of_draws {} {} Artwork.decode? (songShown.take 3) "key").2.2.2.2 blank
  exact ⟨first, second, drawn, rfl, rfl, titled, (starts rfl titled).2, rfl, rfl, rfl, rfl, rfl,
    goesOn, blank, still.1⟩

end Controller

end Marquee
