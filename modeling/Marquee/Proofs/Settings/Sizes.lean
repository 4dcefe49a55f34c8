import Marquee.Proofs.Settings.Numbers
import Marquee.Proofs.Settings.Periods

/-!
What the numbers that the deck software sends lead to: the period of a button's loop and the number
of characters that fit on the button. It makes no difference whether a number came as a number or as
a text.
-/

namespace Marquee

namespace AnimationConfig

variable {f g : Nat}

theorem textWidth_pos (config : AnimationConfig) (known : 1 ≤ f) :
    config.textWidth f = max config.pixelWidth 1 / max 1 (f / 2) := by
  rw [textWidth, if_neg (Nat.pos_iff_ne_zero.mp known), Nat.max_comm (f / 2) 1]

/-- As many characters as fit, at half a font size of pixels each and at least one pixel. -/
theorem textWidth_fits (config : AnimationConfig) (known : 1 ≤ f) :
    config.textWidth f * max 1 (f / 2) ≤ max config.pixelWidth 1 ∧
      max config.pixelWidth 1 < (config.textWidth f + 1) * max 1 (f / 2) := by
  have wide : 0 < max 1 (f / 2) := by omega
  rw [config.textWidth_pos known]
  refine ⟨Nat.div_mul_le_self _ _, ?_⟩
  rw [Nat.mul_comm]
  exact Nat.lt_mul_div_succ _ wide

/-- A larger font leaves room for no more characters. -/
theorem textWidth_antitone (config : AnimationConfig) (known : 1 ≤ f) (larger : f ≤ g) :
    config.textWidth g ≤ config.textWidth f ∧ config.textWidth f ≤ max config.pixelWidth 1 := by
  have wider : max 1 (f / 2) ≤ max 1 (g / 2) := by omega
  have wide : 0 < max 1 (f / 2) := by omega
  rw [config.textWidth_pos known, config.textWidth_pos (Nat.le_trans known larger)]
  exact ⟨Nat.div_le_div_left wider wide, Nat.div_le_self _ _⟩

end AnimationConfig

namespace Settings

/-- The member that gives the font size of a payload: the nested one wherever it exists, whatever it
is, and otherwise the payload's own, if there is one. -/
inductive FontMember (payload : Json) : Option Json → Prop
  | nested {parameters value : Json} (inside : payload.get? "titleParameters" = some parameters)
    (present : parameters.get? "fontSize" = some value) : FontMember payload (some value)
  | own (absent : ∀ parameters, payload.get? "titleParameters" = some parameters →
      parameters.get? "fontSize" = none) : FontMember payload (payload.get? "fontSize")

theorem fontMember_iff {payload : Json} {member : Option Json} :
    FontMember payload member ↔ member =
      ((payload.get? "titleParameters").bind (·.get? "fontSize")).or
        (payload.get? "fontSize") := by
  constructor
  · intro gives
    cases gives with
    | nested inside present => rw [inside, Option.bind_some, present, Option.some_or]
    | own absent =>
        cases inside : payload.get? "titleParameters" with
        | none => rfl
        | some parameters => rw [Option.bind_some, absent parameters inside, Option.none_or]
  · rintro rfl
    cases inside : payload.get? "titleParameters" with
    | none => exact .own fun parameters found => by rw [inside] at found; cases found
    | some parameters =>
        rw [Option.bind_some]
        cases present : parameters.get? "fontSize" with
        | none =>
            rw [Option.none_or]
            refine .own fun other found => ?_
            rw [inside] at found
            exact Option.some.inj found ▸ present
        | some value => exact .nested inside present

theorem fontMember_whole {payload : Json} (whole : payload.IsWhole) {member : Option Json}
    (gives : FontMember payload member) {value : Json} (same : member = some value) :
    value.IsWhole := by
  cases gives with
  | nested inside present =>
      exact Option.some.inj same ▸ Json.isWhole_get? (Json.isWhole_get? whole inside) present
  | own absent => exact Json.isWhole_get? whole same

theorem fontSize_eq_iff {payload : Json} (whole : payload.IsWhole) (n : Nat) :
    fontSize payload = n ↔
      ∃ member size, FontMember payload member ∧ Reads member size ∧ n = min size (2 ^ 32 - 1) := by
  let member := ((payload.get? "titleParameters").bind (·.get? "fontSize")).or
    (payload.get? "fontSize")
  have gives : FontMember payload member := fontMember_iff.mpr rfl
  have read := lenient_eq_iff fun value same => fontMember_whole whole gives same
  constructor
  · rintro rfl
    exact ⟨member, lenient member, gives, (read _).mp rfl, rfl⟩
  · rintro ⟨other, size, chosen, reads, rfl⟩
    obtain rfl : other = member := fontMember_iff.mp chosen
    exact congrArg (min · (2 ^ 32 - 1)) ((read size).mpr reads)

/-- Numbers mean the same whether they are sent as numbers or as texts. Of settings and payloads
whose numbers are integers of 64 bits, the period that is asked for and the font size are read as
what their members stand for. So a button's loop has the period that its settings ask for, or else
the configured one, and no loop that is ever started has the period zero. A larger font size leaves
room for no more characters, and there are as many as fit. -/
theorem numbers_alike (config : Config) (source : Source) (decoder : Artwork.Decoder)
    (moves : List Traffic.Move) {settings payload : Json} (wholeSettings : settings.IsWhole)
    (wholePayload : payload.IsWhole) (other : Json) :
    let asked := settings.get? "refresh_time"
    let period := (ButtonSettings.ofJson settings).period config.animation.period
    let panel := ((Traffic.start config source decoder).run moves).controller.panel
    let f := fontSize payload
    let g := fontSize other
    let room := max config.animation.pixelWidth 1
    (∀ n, (ButtonSettings.ofJson settings).refreshTime = n ↔ Reads asked n) ∧
    (∀ n, f = n ↔
      ∃ member size, FontMember payload member ∧ Reads member size ∧ n = min size (2 ^ 32 - 1)) ∧
    (∀ n, Reads asked n →
      period = if 0 < n then n else max 16 (min 60000 config.animation.refresh)) ∧
    (∀ controller : Controller, controller.animation = config.animation → ∀ inside context,
      ((controller.appear context settings).panel.loops.getLast?).map Loop.period = some period ∧
      ((controller.changeSettings inside context settings).panel.loops.getLast?).map Loop.period =
        some period) ∧
    (∀ loop ∈ panel.loops, 0 < loop.period ∧ ∃ context told,
      (context, told) ∈ moves.filterMap Traffic.Move.tells? ∧
      panel.contextOf loop.face = some context ∧
      loop.period = (ButtonSettings.ofJson told).period config.animation.period) ∧
    (1 ≤ f → f ≤ g →
      config.animation.textWidth g ≤ config.animation.textWidth f ∧
      config.animation.textWidth f ≤ room ∧
      config.animation.textWidth f * max 1 (f / 2) ≤ room ∧
      room < (config.animation.textWidth f + 1) * max 1 (f / 2)) := by
  intro asked period panel f g room
  refine ⟨refreshTime_eq_iff wholeSettings, fontSize_eq_iff wholePayload,
    fun n => period_eq wholeSettings config.animation, ?_, ?_, ?_⟩
  · intro controller configured inside context
    have same : controller.periodFor settings = period := by rw [Controller.periodFor, configured]
    rw [← same]
    exact ⟨Controller.period_configure
        (controller.note .debug "button appeared" [("context", .text context)]) id context settings,
      Controller.period_configure
        (controller.note .debug "button settings received" [("context", .text context)]) inside
        context settings⟩
  · have paced := (Traffic.paced_start config source decoder).run
      (Traffic.sound_start config source decoder) moves
    intro loop member
    obtain ⟨context, told, known, whose, same⟩ := paced.loops loop.face loop.period
      (List.mem_map.mpr ⟨loop, member, rfl⟩)
    refine ⟨?_, context, told, known, whose, same⟩
    rw [same]
    exact Aspect.period_pos told config.animation
  · intro known larger
    have least := config.animation.textWidth_antitone known larger
    exact ⟨least.1, least.2, config.animation.textWidth_fits known⟩

/-- Settings with a text between blanks, and a payload with a nested text next to a number. -/
theorem numbers_alike_text :
    let settings : Json := .object [("refresh_time", .string "\t+007 ")]
    let payload : Json := .object [("titleParameters", .object [("fontSize", .string "9")]),
      ("fontSize", .number (.int 20))]
    let other : Json := .object [("fontSize", .number (.int 14))]
    let animation := ({} : Config).animation
    settings.IsWhole ∧ payload.IsWhole ∧
      (ButtonSettings.ofJson settings).refreshTime = 7 ∧
      (ButtonSettings.ofJson settings).period animation.period = 7 ∧
      fontSize payload = 9 ∧
      animation.textWidth (fontSize other) ≤ animation.textWidth (fontSize payload) := by
  intro settings payload other animation
  have wholeSettings : settings.IsWhole := ⟨trivial, trivial⟩
  have wholePayload : payload.IsWhole := ⟨⟨trivial, trivial⟩, ⟨by decide, by decide⟩, trivial⟩
  obtain ⟨refresh, size, period, _, _, widths⟩ :=
    numbers_alike {} {} Artwork.decode? [] wholeSettings wholePayload other
  have seven : Reads (settings.get? "refresh_time") 7 := by
    have spelled : Spells "\t+007 ".toList 7 :=
      ⟨['\t'], "+007".toList, [' '], rfl, List.all_eq_true.mp (by decide),
        List.all_eq_true.mp (by decide), ['+'], "007".toList, rfl, by decide, by decide,
        List.all_eq_true.mp (by decide), rfl⟩
    exact .text spelled (by decide)
  have nine : fontSize payload = 9 := by
    have spelled : Spells "9".toList 9 :=
      ⟨[], "9".toList, [], rfl, List.forall_mem_nil _, List.forall_mem_nil _, [], "9".toList, rfl,
        by decide, by decide, List.all_eq_true.mp (by decide), rfl⟩
    exact (size 9).mpr ⟨_, 9, .nested rfl rfl, .text spelled (by decide), rfl⟩
  have fourteen : fontSize other = 14 := rfl
  have narrower := widths (by rw [nine]; decide) (by rw [nine, fourteen]; decide)
  exact ⟨wholeSettings, wholePayload, (refresh 7).mpr seven, period 7 seven, nine, narrower.1⟩

end Settings

end Marquee
