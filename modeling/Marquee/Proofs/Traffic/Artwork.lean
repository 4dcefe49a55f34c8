import Marquee.Proofs.Traffic.Flags
import Marquee.Proofs.Traffic.Places

/-!
Every button comes to show the artwork that is published. While the flag of a button is clear, the
host has the image of the media, whatever events, changes of the source, samples and passes there
were; and one pass of the button's loop that finds room and a title clears the flag.
-/

namespace Marquee

namespace Controller

def imageAfter (controller : Controller) (base : Nat) (context : String) : Option String :=
  lastImage context (controller.panel.sent.drop base)

/-- The flag of a button was raised at most `count` times, and where it is clear, the button shows
the image of the media. -/
structure Shows (controller : Controller) (base count : Nat) (context : String) : Prop where
  received : base ≤ controller.panel.sent.length
  settles : ∀ {face}, controller.faceAt context = some face →
    face.flag.Settles count (controller.imageAfter base context) controller.media.image

variable {controller : Controller} {base count : Nat} {context : String}

theorem Shows.leaves {after : Controller} (shows : controller.Shows base count context)
    (leaves : Leaves controller after context) (bounded : count + 1 < 2 ^ 64) :
    after.Shows base (count + 1) context := by
  have handed : after.imageAfter base context = controller.imageAfter base context := by
    unfold imageAfter
    rw [leaves.sent]
  refine ⟨?_, ?_⟩
  · rw [leaves.sent]
    exact shows.received
  · intro face known
    rcases leaves.flag known with fresh | ⟨earlier, knownBefore, raised | ⟨same, media⟩⟩
    · rw [fresh]
      exact ChangeFlag.settles_fresh bounded _ _
    · have settles := shows.settles knownBefore
      rw [raised]
      exact ChangeFlag.settles_raise settles.behind settles.counted bounded _ _
    · rw [same, handed, media]
      exact (shows.settles knownBefore).later (Nat.le_succ count) (Or.inl rfl)

theorem pass_cases (controller : Controller) (number : Nat) :
    controller.pass number = controller ∨
      ∃ loop face, controller.panel.loops[number]? = some loop ∧
        controller.panel.faces[loop.face]? = some face ∧
        let drawn := Scene.draw ⟨face, controller.media⟩ controller.animation.target
          Scene.undisturbed loop.tick
        (controller.pass number).panel.faces =
            controller.panel.faces.set loop.face drawn.scene.face ∧
          (controller.pass number).panel.sent = controller.panel.sent ++ drawn.sent := by
  unfold Controller.pass
  rcases controller.panel.pass_cases controller.media controller.animation.target number with
    same | ⟨loop, face, found, drawn, _, passed⟩
  · rw [same]
    exact Or.inl rfl
  · rw [passed]
    exact Or.inr ⟨loop, face, found, drawn, rfl, rfl⟩

theorem Shows.imageAfter_append (shows : controller.Shows base count context) {after : Controller}
    {sent : List HostCall} (sends : after.panel.sent = controller.panel.sent ++ sent) :
    after.imageAfter base context =
      lastImage context (controller.panel.sent.drop base ++ sent) := by
  unfold imageAfter
  rw [sends, List.drop_append_of_le_length shows.received]

/-- A pass of any loop keeps the button right, since it hands over no image but that of the media,
and clears the flag only with it. -/
theorem Shows.pass (shows : controller.Shows base count context)
    (fits : controller.registry.Fits controller.panel) (number : Nat) :
    (controller.pass number).Shows base count context := by
  rcases controller.pass_cases number with same | ⟨loop, face, _, drawn, faces, sends⟩
  · rw [same]
    exact shows
  · refine ⟨?_, ?_⟩
    · rw [sends, List.length_append]
      exact Nat.le_add_right_of_le shows.received
    · intro later known
      rw [shows.imageAfter_append sends]
      obtain ⟨entry, found, shown⟩ := faceAt_eq_some_iff.mp known
      have registered : controller.registry.find? context = some entry := found
      rw [faces] at shown
      -- A draw of another button's face hands the host nothing for this one.
      by_cases own : loop.face = entry.face
      · rw [own] at drawn shown
        have settles := shows.settles (faceAt_eq_some_iff.mpr ⟨entry, registered, drawn⟩)
        have whose : face.context = context := by
          have known := fits.context registered
          unfold Panel.contextOf at known
          rw [drawn] at known
          exact Option.some.inj known
        rw [List.getElem?_set_self (List.getElem?_eq_some_iff.mp drawn).1] at shown
        cases shown
        subst whose
        exact Scene.settles_draw ⟨face, controller.media⟩ _ loop.tick settles
      · rw [List.getElem?_set_ne own] at shown
        have settles := shows.settles (faceAt_eq_some_iff.mpr ⟨entry, registered, shown⟩)
        exact settles.later (Nat.le_refl count) (Scene.draw_image _ _ _ _ _)

theorem Shows.pass_clears (shows : controller.Shows base count context) {entry : Entry}
    {face : Face} {number : Nat} (found : controller.registry.find? context = some entry)
    (shown : controller.panel.faces[entry.face]? = some face)
    (draws : controller.panel.faceOf number = some entry.face)
    (live : controller.panel.isLive number = true) (room : face.width ≠ 0)
    (titled : controller.media.title ≠ "") :
    ∃ later, (controller.pass number).faceAt context = some later ∧ later.isDirty = false := by
  obtain ⟨loop, present, same⟩ := Option.map_eq_some_iff.mp draws
  simp only [Panel.isLive, present] at live
  rw [← same] at shown
  have passed := Panel.pass_live controller.media controller.animation.target present shown live
  have settles := shows.settles (faceAt_eq_some_iff.mpr ⟨entry, found, same ▸ shown⟩)
  refine ⟨_, faceAt_eq_some_iff.mpr ⟨entry, found, ?_⟩,
    Scene.draw_clears ⟨face, controller.media⟩ controller.animation.target loop.tick room titled
      settles.behind⟩
  unfold Controller.pass
  rw [passed, ← same]
  exact List.getElem?_set_self (List.getElem?_eq_some_iff.mp shown).1

end Controller

namespace Traffic

variable {traffic : Traffic}

def Move.raises : Move → Bool
  | .event _ => true
  | .message _ => true
  | .advance _ => true
  | .deliver _ _ => true
  | .refresh => true
  | .shutdown => false
  | .tick _ => false
  | .source _ => false

theorem Sound.leaves_event (sound : traffic.Sound) (event : HostEvent) (context : String) :
    Controller.Leaves traffic.controller (traffic.event event).controller context := by
  cases event with
  | titleParametersDidChange other size =>
      exact Controller.leaves_changeFont _ sound.entries other size context
  | unknown name => exact Controller.leaves_of_kept rfl rfl fun found => ⟨_, found, rfl, rfl⟩
  | _ => exact Controller.Leaves.refl _ context

theorem Sound.leaves_advance (sound : traffic.Sound) (number : Nat) (context : String) :
    Controller.Leaves traffic.controller (traffic.advance number).controller context := by
  cases found : traffic.calls[number]? with
  | none =>
      rw [advance_absent found]
      exact Controller.Leaves.refl _ context
  | some call =>
      rw [advance_found found]
      exact Controller.leaves_advance _ call sound.entries context

theorem Sound.shows_step (sound : traffic.Sound) {base count : Nat} {context : String}
    (shows : traffic.controller.Shows base count context) (move : Move)
    (bounded : count + (if move.raises then 1 else 0) < 2 ^ 64) :
    (traffic.step move).controller.Shows base (count + if move.raises then 1 else 0) context := by
  cases move with
  | event event => exact shows.leaves (sound.leaves_event event context) bounded
  | message raw =>
      simp only [step]
      cases read : HostEvent.read raw with
      | ok event => exact shows.leaves (sound.leaves_event event context) bounded
      | error fault =>
          refine shows.leaves ?_ bounded
          simp only [Controller.handleMessage, read]
          exact Controller.leaves_of_kept rfl rfl fun found => ⟨_, found, rfl, rfl⟩
  | shutdown => exact shows
  | advance number => exact shows.leaves (sound.leaves_advance number context) bounded
  | tick loop => exact shows.pass sound.entries loop
  | source edit => exact ⟨shows.received, shows.settles⟩
  | deliver change between =>
      exact shows.leaves
        (Controller.leaves_deliver _ sound.entries sound.distinct change between context) bounded
  | refresh =>
      exact shows.leaves (Controller.leaves_refresh _ sound.entries sound.distinct context) bounded

theorem shows_absent {context : String}
    (absent : traffic.controller.registry.find? context = none) :
    traffic.controller.Shows traffic.controller.panel.sent.length 0 context := by
  refine ⟨Nat.le_refl _, ?_⟩
  intro face known
  obtain ⟨entry, found, _⟩ := Controller.faceAt_eq_some_iff.mp known
  rw [absent] at found
  cases found

theorem Sound.shows_run (sound : traffic.Sound) {base count : Nat} {context : String}
    (shows : traffic.controller.Shows base count context) (moves : List Move)
    (bounded : count + moves.countP Move.raises < 2 ^ 64) :
    (traffic.run moves).controller.Shows base (count + moves.countP Move.raises) context := by
  induction moves generalizing traffic count with
  | nil => exact shows
  | cons move rest ih =>
      rw [List.countP_cons, Nat.add_comm (rest.countP _), ← Nat.add_assoc] at bounded ⊢
      have next := sound.shows_step shows move (by omega)
      exact ih (sound.yields (traffic.yields_step move)) next bounded

/-- Every button comes to show the artwork that is published. After a button was registered, in
whatever order events, changes of the source, samples and passes come, its flag is set, or the image
that the host was handed last for it is that of the media; and one pass of its loop that finds room
and a title leaves the flag clear and that image shown. The generations of the flag have 64 bits, so
the steps that may raise it are counted from there on. -/
theorem image_converges (config : Config) (source : Source) (decoder : Artwork.Decoder)
    (before after : List Move) (context : String) :
    let earlier := (start config source decoder).run before
    let traffic := earlier.run after
    let base := earlier.controller.panel.sent.length
    earlier.controller.registry.find? context = none →
    after.countP Move.raises < 2 ^ 64 →
    context ∈ traffic.controller.registry.contexts →
    ∃ face, traffic.controller.faceAt context = some face ∧
      (face.isDirty = true ∨
        traffic.controller.imageAfter base context = some traffic.controller.media.image) ∧
      (∀ loop, traffic.Holds loop (.button context) → face.width ≠ 0 →
        traffic.controller.media.title ≠ "" →
        let ticked := (traffic.step (.tick loop)).controller
        ∃ drawn, ticked.faceAt context = some drawn ∧ drawn.isDirty = false ∧
          ticked.imageAfter base context = some ticked.media.image) ∧
      (traffic.isQuiet = true → ∃ loop, traffic.Holds loop (.button context)) := by
  intro earlier traffic base absent bounded registered
  have soundEarlier : earlier.Sound := (sound_start config source decoder).run before
  have sound : traffic.Sound := soundEarlier.run after
  have shows : traffic.controller.Shows base (0 + after.countP Move.raises) context :=
    soundEarlier.shows_run (shows_absent absent) after (by omega)
  cases found : traffic.controller.registry.find? context with
  | none => exact absurd registered (Registry.find?_eq_none_iff.mp found)
  | some entry =>
      obtain ⟨face, shown, _⟩ := Option.map_eq_some_iff.mp (sound.entries.context found)
      have known := Controller.faceAt_eq_some_iff.mpr ⟨entry, found, shown⟩
      refine ⟨face, known, ?_, ?_, ?_⟩
      · cases dirty : face.isDirty with
        | true => exact Or.inl rfl
        | false => exact Or.inr ((shows.settles known).shown dirty)
      · intro loop held room titled
        have live := sound.live_of_holds held
        obtain ⟨owner, foundOwner, task⟩ := held
        rw [found] at foundOwner
        cases foundOwner
        obtain ⟨drawn, knownDrawn, clear⟩ :=
          shows.pass_clears found shown (sound.entries.face found task) live room titled
        have passed := shows.pass sound.entries loop
        exact ⟨drawn, knownDrawn, clear, (passed.settles knownDrawn).shown clear⟩
      · intro quiet
        obtain ⟨loop, task⟩ := sound.has_task quiet found
        exact ⟨loop, entry, found, task⟩

def songBegins : List Move :=
  [.event (.willAppear "key" .null), .advance 0, .advance 0, .advance 0, .tick 0, .advance 0,
    .advance 0, .event (.titleParametersDidChange "key" 12), .tick 0,
    .source (.current (some ⟨"session", "Song", "Singer", .playing⟩)), .refresh]

theorem image_converges_song :
    let traffic := (start {} {} Artwork.decode?).run songBegins
    (start {} {} Artwork.decode?).controller.registry.find? "key" = none ∧
      songBegins.countP Move.raises < 2 ^ 64 ∧
      "key" ∈ traffic.controller.registry.contexts ∧
      traffic.Holds 0 (.button "key") ∧ traffic.controller.media.title ≠ "" ∧
      ∃ face, traffic.controller.faceAt "key" = some face ∧ face.width ≠ 0 ∧
        face.isDirty = true ∧
        let ticked := (traffic.step (.tick 0)).controller
        ∃ drawn, ticked.faceAt "key" = some drawn ∧ drawn.isDirty = false ∧
          ticked.imageAfter 0 "key" = some ticked.media.image := by
  have absent : (start {} {} Artwork.decode?).controller.registry.find? "key" = none := by
    decide +kernel
  have registered :
      "key" ∈ ((start {} {} Artwork.decode?).run songBegins).controller.registry.contexts := by
    decide +kernel
  have held : ((start {} {} Artwork.decode?).run songBegins).Holds 0 (.button "key") :=
    ⟨⟨0, ⟨some 0, false⟩⟩, by decide +kernel, rfl⟩
  have titled : ((start {} {} Artwork.decode?).run songBegins).controller.media.title ≠ "" := by
    decide +kernel
  have known : ((start {} {} Artwork.decode?).run songBegins).controller.faceAt "key" =
      some ⟨"key", 12, ⟨2, 0⟩⟩ := by decide +kernel
  obtain ⟨face, shown, _, converges, _⟩ :=
    image_converges {} {} Artwork.decode? [] songBegins "key" absent (by decide) registered
  have same : face = ⟨"key", 12, ⟨2, 0⟩⟩ := Option.some.inj (shown.symm.trans known)
  have room : face.width ≠ 0 := by
    rw [same]
    decide
  refine ⟨absent, by decide, registered, held, titled, face, shown, room, ?_,
    converges 0 held room titled⟩
  rw [same]
  decide

end Traffic

end Marquee
