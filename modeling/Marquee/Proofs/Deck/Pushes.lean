import Marquee.Proofs.Deck.Map
import Marquee.Proofs.Deck.Pauses
import Marquee.Proofs.Deck.Stream
import Marquee.Proofs.Drawing.Touches

/-!
How often artwork goes out. Every image that a button gets for a titled state was paid for: by the
settings that were told for the button, or by media that were published while it was on the deck.
Several of these before one draw are paid out at once, so that between two images there is always
one more.
-/

namespace Marquee

def HostCall.isImage : HostCall → Bool
  | setImage _ _ _ => true
  | _ => false

def Draw.pushes (draw : Draw) : List HostCall :=
  if draw.media.title = "" then [] else draw.sent.filter HostCall.isImage

def Turn.configures (turn : Turn) (context : String) : Bool :=
  turn.configures?.any (·.1 == context)

/-- How a turn may change the flag of a button, how often that was called for, and how many images
went out. -/
inductive ChangeFlag.Moves : Option ChangeFlag → Option ChangeFlag → Nat → Nat → Prop
  | raised (flag : Option ChangeFlag) : Moves flag (some (flag.getD {}).raise) 1 0
  | cleared {flag : ChangeFlag} :
      flag.isSet = true → Moves (some flag) (some (flag.consume flag.raised)) 0 1
  | kept (flag : Option ChangeFlag) : Moves flag flag 0 0
  | gone (flag : Option ChangeFlag) : Moves flag none 0 0

namespace ChangeFlag

def due (flag : Option ChangeFlag) : Nat := (flag.any isSet).toNat

def Counted (flag : Option ChangeFlag) (count : Nat) : Prop :=
  ∀ raised ∈ flag, raised.consumed.toNat ≤ raised.raised.toNat ∧ raised.raised.toNat ≤ count

variable {before after : Option ChangeFlag} {stirs pushes count : Nat}

theorem due_le_one (flag : Option ChangeFlag) : due flag ≤ 1 := Bool.toNat_le _

theorem Moves.counted (moves : Moves before after stirs pushes) (counted : Counted before count)
    (bounded : count + stirs < 2 ^ 64) : Counted after (count + stirs) := by
  cases moves with
  | raised =>
      rintro _ ⟨⟩
      have old : (before.getD {}).consumed.toNat ≤ (before.getD {}).raised.toNat ∧
          (before.getD {}).raised.toNat ≤ count := by
        cases before with
        | none => exact ⟨Nat.le_refl 0, Nat.zero_le count⟩
        | some flag => exact counted flag rfl
      have newest : (before.getD {}).raise.raised.toNat = (before.getD {}).raised.toNat + 1 :=
        raised_raise (by omega)
      have same : (before.getD {}).raise.consumed = (before.getD {}).consumed := rfl
      rw [newest, same]
      omega
  | @cleared flag set =>
      rintro _ ⟨⟩
      obtain ⟨behind, low⟩ := counted flag rfl
      rw [consumed_consume behind]
      exact ⟨Nat.le_refl _, low⟩
  | kept => exact counted
  | gone => rintro _ ⟨⟩

/-- An image goes out only where one is outstanding, and what is outstanding was called for. -/
theorem Moves.paid (moves : Moves before after stirs pushes) (counted : Counted before count) :
    due after + pushes ≤ due before + stirs := by
  cases moves with
  | raised =>
      have most := due_le_one (some (before.getD {}).raise)
      omega
  | @cleared flag set =>
      have clear := isSet_consume (counted flag rfl).1
      simp [ChangeFlag.due, set, clear]
  | kept => exact Nat.le_refl _
  | gone => simp [ChangeFlag.due]

theorem Moves.due_of_pushed (moves : Moves before after stirs pushes) (pushed : pushes ≠ 0)
    (counted : Counted before count) : due before = 1 ∧ due after = 0 := by
  cases moves with
  | @cleared flag set =>
      have clear := isSet_consume (counted flag rfl).1
      simp [ChangeFlag.due, set, clear]
  | _ => exact absurd rfl pushed

end ChangeFlag

namespace Aspect

def flag (aspect : Aspect) : Option ChangeFlag := aspect.button.map (·.face.flag)

theorem flag_restart (aspect : Aspect) (context : String) (settings : Json) :
    (aspect.restart context settings).flag = some (aspect.flag.getD {}).raise := by
  unfold restart flag
  cases aspect.button <;> rfl

theorem flag_changeFace (aspect : Aspect) (change : Face → Face) :
    (aspect.changeFace change).flag = aspect.button.map fun button => (change button.face).flag := by
  simp only [flag, changeFace, Option.map_map]
  rfl

/-- An event raises the flag of a button where it tells its settings, and only there. -/
theorem moves_answer (aspect : Aspect) {context : String} {event : HostEvent}
    (own : event.owner?.all (· == context) = true) :
    ChangeFlag.Moves aspect.flag (aspect.answer context event).flag
      (event.configures?.any (·.1 == context)).toNat 0 := by
  cases event with
  | willAppear owner settings =>
      have told : (HostEvent.willAppear owner settings).configures?.any (·.1 == context) = true :=
        own
      rw [told, answer, flag_restart]
      exact .raised _
  | didReceiveSettings owner settings =>
      have told : (HostEvent.didReceiveSettings owner settings).configures?.any
          (·.1 == context) = true := own
      rw [told, answer, flag_restart]
      exact .raised _
  | willDisappear owner => exact .gone _
  | titleParametersDidChange owner size =>
      rw [answer, flag_changeFace]
      exact .kept _
  | _ => exact .kept _

theorem flag_published (aspect : Aspect) (result : Sampler × Bool) :
    (aspect.published result).flag =
      if result.2 then aspect.flag.map ChangeFlag.raise else aspect.flag := by
  unfold published
  split
  · rw [flag_changeFace, flag, Option.map_map]
    rfl
  · rfl

end Aspect

namespace Controller

def flagAt (controller : Controller) (context : String) : Option ChangeFlag :=
  (controller.buttonAt context).map (·.face.flag)

def publishedBy (controller : Controller) (turn : Turn) : Nat :=
  (controller.turn turn).sampler.published - controller.sampler.published

def publications (controller : Controller) (context : String) : List Turn → Nat
  | [] => 0
  | turn :: rest =>
    (if (controller.registry.find? context).isSome then controller.publishedBy turn else 0) +
      (controller.turn turn).publications context rest

def calls (controller : Controller) (context : String) (turns : List Turn) : Nat :=
  turns.countP (·.configures context) + controller.publications context turns

def pushes (controller : Controller) (context : String) (turns : List Turn) : List HostCall :=
  (controller.draws context turns).flatMap Draw.pushes

variable {controller : Controller} {context : String}

theorem calls_cons (controller : Controller) (context : String) (turn : Turn) (rest : List Turn) :
    controller.calls context (turn :: rest) =
      controller.calls context [turn] + (controller.turn turn).calls context rest := by
  simp only [calls, publications, List.countP_cons, List.countP_nil]
  omega

theorem calls_append (controller : Controller) (context : String) (first second : List Turn) :
    controller.calls context (first ++ second) =
      controller.calls context first + (controller.turns first).calls context second := by
  induction first generalizing controller with
  | nil => simp [calls, publications, turns]
  | cons turn rest ih =>
      rw [List.cons_append, calls_cons, ih, controller.calls_cons context turn rest, Nat.add_assoc]
      rfl

theorem pushes_cons (controller : Controller) (context : String) (turn : Turn) (rest : List Turn) :
    controller.pushes context (turn :: rest) =
      controller.pushes context [turn] ++ (controller.turn turn).pushes context rest := by
  simp [pushes, draws, List.flatMap_append]

theorem pushes_undrawn {turn : Turn} (undrawn : controller.draw? context turn = none) :
    controller.pushes context [turn] = [] := by
  simp [pushes, draws, undrawn]

theorem flagAt_absent (absent : controller.registry.find? context = none) :
    controller.flagAt context = none := by
  rw [flagAt, buttonAt_absent absent, Option.map_none]

theorem calls_single (controller : Controller) (context : String) (turn : Turn) :
    controller.calls context [turn] = (turn.configures context).toNat +
      if (controller.registry.find? context).isSome then controller.publishedBy turn else 0 := by
  simp only [calls, publications, List.countP_singleton, Nat.add_zero]
  cases turn.configures context <;> rfl

theorem calls_unpublished (controller : Controller) (context : String) (turn : Turn)
    (unpublished : (controller.turn turn).sampler.published = controller.sampler.published) :
    controller.calls context [turn] = (turn.configures context).toNat := by
  simp [calls_single, publishedBy, unpublished]

section Moves

theorem Sound.moves_published (sound : controller.Sound) (context : String)
    {result : Sampler × Bool}
    (counts : result.1.published = controller.sampler.published + if result.2 then 1 else 0) :
    ChangeFlag.Moves (controller.flagAt context) ((controller.published result).flagAt context)
      (if (controller.registry.find? context).isSome then
        (controller.published result).sampler.published - controller.sampler.published
      else 0) 0 := by
  have agrees : Sampler.Agrees result result := ⟨rfl, rfl⟩
  have seen := (congrArg Aspect.flag (sound.aspect_published agrees context)).trans
    (Aspect.flag_published _ result)
  have sampler : (controller.published result).sampler = result.1 := by
    obtain ⟨sampler, told⟩ := result
    cases told <;> rfl
  have difference : (controller.published result).sampler.published -
      controller.sampler.published = if result.2 then 1 else 0 := by
    rw [sampler]
    omega
  change (controller.published result).flagAt context =
    if result.2 then (controller.flagAt context).map ChangeFlag.raise
    else controller.flagAt context at seen
  rw [seen, difference]
  cases result.2 with
  | false => simpa using ChangeFlag.Moves.kept _
  | true =>
      cases found : controller.registry.find? context with
      | none =>
          rw [flagAt_absent found]
          exact .kept none
      | some entry =>
          obtain ⟨number, loop, face, staff⟩ := sound.staffed found
          simp only [flagAt, staff.button, Option.map_some, Option.isSome_some, if_true]
          exact .raised (some face.flag)

theorem Sound.moves_answer (sound : controller.Sound) (event : HostEvent) :
    ChangeFlag.Moves (controller.flagAt context) ((controller.answer event).flagAt context)
      (event.configures?.any (·.1 == context)).toNat 0 := by
  have seen := congrArg Aspect.flag (sound.aspect_answer context event)
  change (controller.answer event).flagAt context = _ at seen
  rw [seen]
  by_cases own : event.owner?.all (· == context) = true
  · rw [if_pos own]
    exact (controller.aspect context).moves_answer own
  · rw [if_neg own]
    have untold : event.configures?.any (·.1 == context) = false := by
      cases event with
      | willAppear owner settings => exact Bool.eq_false_iff.mpr own
      | didReceiveSettings owner settings => exact Bool.eq_false_iff.mpr own
      | _ => rfl
    rw [untold]
    exact .kept _

/-- A draw clears the flag just where it sends an image of a titled state. -/
theorem Sound.moves_tick (sound : controller.Sound) (context : String) :
    ChangeFlag.Moves (controller.flagAt context) ((controller.tickAt context).flagAt context) 0
      (controller.pushes context [.tick context]).length := by
  cases found : controller.registry.find? context with
  | none =>
      have undrawn : controller.draw? context (.tick context) = none := by
        simp only [draw?, loopAt, found, Option.bind_none, if_true]
      rw [tickAt_absent found, pushes_undrawn undrawn]
      exact .kept _
  | some entry =>
      obtain ⟨number, loop, face, ticks⟩ := sound.ticks found
      have before : controller.flagAt context = some face.flag := by
        rw [flagAt, ticks.button, Option.map_some]
      have after : (controller.tickAt context).flagAt context =
          some (controller.drawing face loop).scene.face.flag := by
        rw [flagAt, ticks.button_drawn, Option.map_some]
      simp only [before, after, pushes, draws, ticks.draw?_eq]
      by_cases room : face.width = 0
      · rw [if_pos room, drawing, Scene.draw_blank _ _ _ room]
        exact .kept _
      · rw [if_neg room]
        cases pending : face.flag.pending with
        | none =>
            rw [drawing, Scene.draw_steady _ _ _ room pending]
            simpa [Draw.pushes, HostCall.isImage] using ChangeFlag.Moves.kept _
        | some generation =>
            have set : face.flag.isSet = true := by rw [ChangeFlag.isSet, pending]; rfl
            rw [drawing, Scene.draw_pending _ _ _ room pending, ChangeFlag.pending_eq_some pending]
            simp only [Scroll.visible_empty_iff room]
            by_cases titled : controller.media.title = ""
            · simpa [Draw.pushes, titled] using ChangeFlag.Moves.kept _
            · simpa [Draw.pushes, titled, HostCall.isImage, List.filter_cons] using
                ChangeFlag.Moves.cleared set

theorem Sound.published_answer (sound : controller.Sound) (event : HostEvent) :
    (controller.answer event).sampler.published = controller.sampler.published := by
  have seen := congrArg (fun aspect => aspect.sampler.published) (sound.aspect_answer "" event)
  refine Eq.trans seen ?_
  split
  · cases event <;> rfl
  · rfl

theorem Sound.moves_event (sound : controller.Sound) {turn : Turn} {event : HostEvent}
    (same : controller.turn turn = controller.answer event)
    (told : turn.configures? = event.configures?)
    (undrawn : controller.draw? context turn = none) :
    ChangeFlag.Moves (controller.flagAt context) ((controller.turn turn).flagAt context)
      (controller.calls context [turn]) (controller.pushes context [turn]).length := by
  have unpublished := sound.published_answer event
  rw [← same] at unpublished
  rw [controller.calls_unpublished context turn unpublished, pushes_undrawn undrawn,
    Turn.configures, told, same]
  exact sound.moves_answer event

/-- Every turn moves the flag of a button in one of the four ways. -/
theorem Sound.moves (sound : controller.Sound) (free : controller.sampler.busy = false)
    (context : String) (turn : Turn) :
    ChangeFlag.Moves (controller.flagAt context) ((controller.turn turn).flagAt context)
      (controller.calls context [turn]) (controller.pushes context [turn]).length := by
  cases turn with
  | event event => exact sound.moves_event rfl rfl rfl
  | message raw =>
      cases read : HostEvent.read raw with
      | ok event =>
          have same : controller.turn (.message raw) = controller.answer event := by
            simp only [Controller.turn, read]
          exact sound.moves_event same (by simp only [Turn.configures?, read]) rfl
      | error fault =>
          have noted : controller.turn (.message raw) =
              controller.note .warn "dropping host message"
                [("error", .text (HostEvent.refusal raw fault))] := by
            simp only [Controller.turn, handleMessage, read]
          have untold : (Turn.message raw).configures context = false := by
            simp only [Turn.configures, Turn.configures?, read, Option.any_none]
          rw [controller.calls_unpublished context _ (by rw [noted]; rfl), pushes_undrawn rfl,
            untold, noted]
          exact .kept _
  | shutdown =>
      have detached := (Sampler.steady_detach controller.sampler).published
      rw [controller.calls_unpublished context .shutdown detached, pushes_undrawn rfl]
      exact .gone _
  | tick owner =>
      have sampler : (controller.tickAt owner).sampler = controller.sampler := by
        unfold tickAt
        split <;> rfl
      rw [controller.calls_unpublished context (.tick owner) (congrArg _ sampler)]
      by_cases own : owner = context
      · subst own
        exact sound.moves_tick owner
      · have undrawn : controller.draw? context (.tick owner) = none := if_neg own
        have seen := congrArg Aspect.flag (sound.aspect_tickAt_other (Ne.symm own))
        change (controller.tickAt owner).flagAt context = controller.flagAt context at seen
        rw [pushes_undrawn undrawn]
        simp only [Controller.turn, seen]
        exact .kept _
  | source edit =>
      rw [controller.calls_unpublished context (.source edit) rfl, pushes_undrawn rfl]
      exact .kept _
  | notify token change =>
      have untold : (Turn.notify token change).configures context = false := rfl
      rw [calls_single, pushes_undrawn rfl, untold, Bool.toNat_false, Nat.zero_add]
      exact sound.moves_published context (Sampler.published_notify free token change)
  | refresh =>
      have untold : Turn.refresh.configures context = false := rfl
      rw [calls_single, pushes_undrawn rfl, untold, Bool.toNat_false, Nat.zero_add]
      exact sound.moves_published context (Sampler.published_sample free)

end Moves

structure Account (controller : Controller) (context : String) (turns : List Turn) (count : Nat) :
    Prop where
  counted : ChangeFlag.Counted ((controller.turns turns).flagAt context)
    (count + controller.calls context turns)
  paid : ChangeFlag.due ((controller.turns turns).flagAt context) +
      (controller.pushes context turns).length ≤
    ChangeFlag.due (controller.flagAt context) + controller.calls context turns

theorem Sound.account (sound : controller.Sound) (free : controller.sampler.busy = false)
    {count : Nat} (counted : ChangeFlag.Counted (controller.flagAt context) count)
    (turns : List Turn) (bounded : count + controller.calls context turns < 2 ^ 64) :
    controller.Account context turns count := by
  induction turns generalizing controller count with
  | nil => exact ⟨counted, Nat.le_refl _⟩
  | cons turn rest ih =>
      have split := controller.calls_cons context turn rest
      have moves := sound.moves free context turn
      have first := moves.paid counted
      have later := ih (sound.turn turn) (sound.busy_turn free turn)
        (moves.counted counted (by omega)) (by omega)
      have total := later.paid
      constructor
      · rw [split, ← Nat.add_assoc]
        exact later.counted
      · rw [split, pushes_cons, List.length_append]
        change ChangeFlag.due (((controller.turn turn).turns rest).flagAt context) + _ ≤ _
        omega

/-- Between two images that a button gets, one more was called for. -/
theorem Sound.called_between (sound : controller.Sound) (free : controller.sampler.busy = false)
    {count : Nat} (counted : ChangeFlag.Counted (controller.flagAt context) count)
    {first second : Turn} {between : List Turn}
    (bounded : count + controller.calls context (first :: between) < 2 ^ 64)
    (pushed : controller.pushes context [first] ≠ [])
    (again : (controller.turns (first :: between)).pushes context [second] ≠ []) :
    0 < (controller.turn first).calls context between := by
  have split := controller.calls_cons context first between
  have moves := sound.moves free context first
  have soundLater := sound.turn first
  have freeLater := sound.busy_turn free first
  have countedLater := moves.counted counted (by omega)
  have settled := (moves.due_of_pushed (by simpa using pushed) counted).2
  have account := soundLater.account freeLater countedLater between (by omega)
  have pushes : ((controller.turn first).turns between).pushes context [second] ≠ [] := again
  have due := ((soundLater.turns between).moves (soundLater.busy_turns freeLater between) context
    second).due_of_pushed (by simpa using pushes) account.counted
  have paid := account.paid
  omega

/-- No artwork goes out for nothing. The images that a button gets for titled states are at most as
many as its settings were told and media were published while it was on the deck, and between two of
them there is one of these. A sample that fails or finds what is shown already changes no button,
and with any number of these put into a run the host gets the same calls. -/
theorem pushes_called_for (config : Config) (source : Source) (decoder : Artwork.Decoder)
    (turns : List Turn) (context : String) :
    let start := Controller.start config source decoder
    let controller := start.turns turns
    (start.calls context turns < 2 ^ 64 →
      (start.pushes context turns).length ≤
        turns.countP (·.configures context) + start.publications context turns ∧
      ∀ before first between second after,
        turns = before ++ first :: (between ++ second :: after) →
        (start.turns before).pushes context [first] ≠ [] →
        (start.turns (before ++ first :: between)).pushes context [second] ≠ [] →
        0 < between.countP (·.configures context) +
          (start.turns (before ++ [first])).publications context between) ∧
    (∀ turn, turn.samples = true → controller.sampler.Idles →
      (controller.turn turn).sampler.published = controller.sampler.published ∧
      (controller.turn turn).panel = controller.panel ∧
      (controller.turn turn).media = controller.media) ∧
    (∀ padded, start.Padded turns padded →
      (start.turns padded).panel.sent = controller.panel.sent) := by
  intro start controller
  have begun : start.Sound := start_sound config source decoder
  have free : start.sampler.busy = false := busy_start config source decoder
  have absent : start.flagAt context = none := by
    have empty : start.registry = {} := by
      simp only [start, Controller.start, published]
      split <;> rfl
    apply flagAt_absent
    rw [empty]
    rfl
  have counted : ChangeFlag.Counted (start.flagAt context) 0 := by
    rw [absent]
    rintro _ ⟨⟩
  refine ⟨fun bounded => ⟨?_, ?_⟩, ?_, ?_⟩
  · have paid := (begun.account free counted turns (by omega)).paid
    rw [absent] at paid
    have none : ChangeFlag.due none = 0 := rfl
    rw [none] at paid
    exact Nat.le_trans (Nat.le_add_left _ _) (Nat.le_trans paid (Nat.le_of_eq (Nat.zero_add _)))
  · intro before first between second after split pushed again
    have total := start.calls_append context before (first :: (between ++ second :: after))
    have rest := (start.turns before).calls_append context (first :: between) (second :: after)
    rw [← split] at total
    rw [List.cons_append] at rest
    have account := begun.account free counted before (by omega)
    have joined : start.turns (before ++ first :: between) =
        (start.turns before).turns (first :: between) := List.foldl_append
    have next : start.turns (before ++ [first]) = (start.turns before).turn first :=
      List.foldl_append
    rw [joined] at again
    rw [next]
    exact (begun.turns before).called_between (begun.busy_turns free before) account.counted
      (by omega) pushed again
  · intro turn samples idles
    obtain ⟨steady, same⟩ := idle_turn (begun.busy_turns free turns) samples idles
    have panel := congrArg (fun after : Controller => after.panel) same
    exact ⟨steady.published, panel, steady.media⟩
  · intro padded filled
    exact congrArg Panel.sent (filled.twin begun free (Twin.refl start)).panel

def play (title : String) : Turn :=
  .source (.current (some ⟨"session", title, "Singer", .playing⟩))

def songReady : List Turn :=
  [play "Song", .refresh, .event (.willAppear "key" .null),
    .event (.titleParametersDidChange "key" 36)]

def songChanges : List Turn := [.tick "key", play "Tune", .refresh]

def outage : List Turn :=
  [.source (.failing [.current]), .refresh, .source (.failing []), .refresh]

theorem pushes_called_for_songs :
    let rest : List Turn := .tick "key" :: (songChanges ++ .tick "key" :: [])
    let run := songReady ++ rest
    (Controller.start {} {}).calls "key" run < 2 ^ 64 ∧
      ((Controller.start {} {}).pushes "key" run).length = 2 ∧
      run.countP (·.configures "key") + (Controller.start {} {}).publications "key" run = 2 ∧
      0 < songChanges.countP (·.configures "key") +
        ((Controller.start {} {}).turns (songReady ++ [.tick "key"])).publications "key"
          songChanges ∧
      ((Controller.start {} {}).turns (songReady ++ (outage ++ rest))).panel.sent =
        ((Controller.start {} {}).turns run).panel.sent := by
  intro rest run
  have bounded : (Controller.start {} {}).calls "key" run < 2 ^ 64 := by decide +kernel
  obtain ⟨counts, _, pads⟩ := pushes_called_for {} {} Artwork.decode? run "key"
  have between := (counts bounded).2 songReady (.tick "key") songChanges (.tick "key") [] rfl
    (by decide +kernel) (by decide +kernel)
  have pauses : ((Controller.start {} {}).turns songReady).Pauses outage :=
    .source _ (.sample rfl rfl (by decide +kernel)
      (.source _ (.sample rfl rfl (by decide +kernel) (.nil _))))
  have restored : Source.Alike ((Controller.start {} {}).turns songReady).sampler.source
      (((Controller.start {} {}).turns songReady).turns outage).sampler.source :=
    ⟨by decide +kernel, by decide +kernel, by decide +kernel, by decide +kernel⟩
  have filled : (Controller.start {} {}).Padded run (songReady ++ (outage ++ rest)) :=
    Padded.after (.pause pauses restored (Padded.refl _ rest))
  exact ⟨bounded, by decide +kernel, by decide +kernel, between, pads _ filled⟩

end Controller

end Marquee
