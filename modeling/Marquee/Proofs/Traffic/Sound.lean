import Mathlib.Data.List.Perm.Basic
import Marquee.Proofs.Traffic.Jobs
import Marquee.Proofs.Traffic.Ownership

/-!
What holds in every state of a controller with calls under way: every live loop is in one hand, the
registry and the calls know the faces of their loops, and every button without a loop waits for a
call.
-/

namespace Marquee

namespace Controller

structure Calm (before after : Controller) : Prop where
  registry : after.registry = before.registry
  keeps : Panel.Keeps before.panel after.panel
  live : ∀ loop, after.panel.isLive loop = before.panel.isLive loop

theorem Calm.refl (controller : Controller) : Calm controller controller :=
  ⟨rfl, Panel.Keeps.refl _, fun _ => rfl⟩

theorem Calm.trans {first second third : Controller} (earlier : Calm first second)
    (later : Calm second third) : Calm first third :=
  ⟨later.registry.trans earlier.registry, earlier.keeps.trans later.keeps,
    fun loop => (later.live loop).trans (earlier.live loop)⟩

theorem calm_note (controller : Controller) (level : Log.Level) (message : String)
    (values : List (String × Log.Value)) : Calm controller (controller.note level message values) :=
  ⟨rfl, Panel.Keeps.refl _, fun _ => rfl⟩

theorem calm_pass (controller : Controller) (loop : Nat) : Calm controller (controller.pass loop) :=
  ⟨rfl, Panel.keeps_pass _ _ _ _, fun _ => Panel.isLive_pass _ _ _ _ _⟩

theorem calm_published (controller : Controller) (result : Sampler × Bool) :
    Calm controller (controller.published result) := by
  obtain ⟨sampler, changed⟩ := result
  cases changed with
  | false => exact ⟨rfl, Panel.Keeps.refl _, fun _ => rfl⟩
  | true => exact ⟨rfl, Panel.keeps_markAll _ _, fun _ => Panel.isLive_markAll _ _ _⟩

theorem calm_deliver (controller : Controller) (change : MediaChange) (between : List SourceEdit) :
    Calm controller (controller.deliver change between) := by
  unfold deliver
  exact calm_published controller _

theorem calm_refresh (controller : Controller) : Calm controller controller.refresh.1 := by
  unfold refresh
  exact calm_published controller _

theorem calm_start (config : Config) (source : Source) (decoder : Artwork.Decoder) :
    ∃ sampler, Calm { animation := config.animation, sampler := sampler }
      (Controller.start config source decoder) := by
  let sampler : Sampler :=
    { source := source, format := config.titleFormat, edge := artworkEdge config.artwork
      decoder := decoder }
  refine ⟨sampler, ?_⟩
  unfold start
  exact (calm_published _ _).trans (calm_note _ _ _ _)

theorem calm_source (controller : Controller) (edit : SourceEdit) :
    Calm controller { controller with sampler := controller.sampler.edit edit } :=
  ⟨rfl, Panel.Keeps.refl _, fun _ => rfl⟩

theorem calm_message (controller : Controller) {raw : String} {fault : Json.Fault}
    (unread : HostEvent.read raw = .error fault) :
    Calm controller (controller.handleMessage raw) := by
  unfold handleMessage
  rw [unread]
  exact calm_note controller _ _ _

theorem calm_changeFont (controller : Controller) (context : String) (size : Nat) :
    Calm controller (controller.changeFont context size) := by
  unfold changeFont
  split
  · exact ⟨rfl, Panel.keeps_changeFace _ _ fun _ => rfl, fun _ => rfl⟩
  · exact calm_note controller _ _ _

end Controller

namespace Call

def IsFresh (call : Call) : Prop :=
  (∃ context settings, call = .appear context settings ∨ call = .settings context settings) ∨
    (∃ context, call = .disappear context) ∨ call = .shutdown

theorem loops_of_fresh {call : Call} (fresh : call.IsFresh) : call.loops = [] := by
  rcases fresh with ⟨context, settings, rfl | rfl⟩ | ⟨context, rfl⟩ | rfl <;> rfl

theorem left?_of_fresh {call : Call} (fresh : call.IsFresh) : call.left? = none := by
  rcases fresh with ⟨context, settings, rfl | rfl⟩ | ⟨context, rfl⟩ | rfl <;> rfl

theorem job?_of_fresh {call : Call} (fresh : call.IsFresh) : call.job? = none := by
  rcases fresh with ⟨context, settings, rfl | rfl⟩ | ⟨context, rfl⟩ | rfl <;> rfl

end Call

namespace Traffic

inductive Yields (traffic : Traffic) (move : Move) : Traffic → Prop where
  | begin {call : Call} (fresh : call.IsFresh) (ends : call = .shutdown → move = .shutdown) :
    Yields traffic move (traffic.begin call)
  | advance (number : Nat) : Yields traffic move (traffic.advance number)
  | calm {after : Controller} (calm : Controller.Calm traffic.controller after) :
    Yields traffic move { traffic with controller := after }

theorem yields_event (traffic : Traffic) (move : Move) (event : HostEvent) :
    traffic.Yields move (traffic.event event) := by
  cases event with
  | willAppear context settings => exact .begin (.inl ⟨context, settings, .inl rfl⟩) nofun
  | didReceiveSettings context settings => exact .begin (.inl ⟨context, settings, .inr rfl⟩) nofun
  | willDisappear context => exact .begin (.inr (.inl ⟨context, rfl⟩)) nofun
  | titleParametersDidChange context size => exact .calm (Controller.calm_changeFont _ _ _)
  | unknown name => exact .calm (Controller.calm_note _ _ _ _)
  | _ => exact .calm (Controller.Calm.refl _)

theorem yields_step (traffic : Traffic) (move : Move) :
    traffic.Yields move (traffic.step move) := by
  cases move with
  | event event => exact traffic.yields_event _ event
  | message raw =>
      simp only [step]
      cases read : HostEvent.read raw with
      | ok event => exact traffic.yields_event _ event
      | error fault => exact .calm (Controller.calm_message _ read)
  | shutdown => exact .begin (.inr (.inr rfl)) fun _ => rfl
  | advance number => exact .advance number
  | tick loop => exact .calm (Controller.calm_pass _ loop)
  | source edit => exact .calm (Controller.calm_source _ edit)
  | deliver change between => exact .calm (Controller.calm_deliver _ change between)
  | refresh => exact .calm (Controller.calm_refresh _)

theorem advance_absent {traffic : Traffic} {number : Nat} (absent : traffic.calls[number]? = none) :
    traffic.advance number = traffic := by
  simp only [Traffic.advance, absent]

theorem advance_found {traffic : Traffic} {number : Nat} {call : Call}
    (found : traffic.calls[number]? = some call) :
    traffic.advance number = ⟨(traffic.controller.advance call).1,
      traffic.calls.set number (traffic.controller.advance call).2⟩ := by
  simp only [Traffic.advance, found]

theorem getElem?_advance {traffic : Traffic} {number : Nat} {call : Call}
    (found : traffic.calls[number]? = some call) :
    (traffic.advance number).calls[number]? = some (traffic.controller.advance call).2 := by
  rw [advance_found found]
  exact List.getElem?_set_self (List.getElem?_eq_some_iff.mp found).1

def inHand (traffic : Traffic) : List Nat := traffic.calls.flatMap Call.loops

def beside (traffic : Traffic) (number : Nat) : List Nat :=
  (traffic.calls.eraseIdx number).flatMap Call.loops

structure Sound (traffic : Traffic) : Prop where
  distinct : traffic.controller.registry.Distinct
  owned : ∀ loop, traffic.controller.registry.tasks.count loop + traffic.inHand.count loop =
    traffic.controller.panel.liveCount loop
  entries : traffic.controller.registry.Fits traffic.controller.panel
  calls : ∀ call ∈ traffic.calls, call.Fits traffic.controller.panel
  awaited : ∀ {context entry}, traffic.controller.registry.find? context = some entry →
    entry.animator.task = none → ∃ call ∈ traffic.calls, call.Awaits context entry.face

theorem count_inHand {traffic : Traffic} {number : Nat} {call : Call}
    (found : traffic.calls[number]? = some call) (loop : Nat) :
    traffic.inHand.count loop = call.loops.count loop + (traffic.beside number).count loop := by
  obtain ⟨bound, same⟩ := List.getElem?_eq_some_iff.mp found
  have apart := (List.getElem_cons_eraseIdx_perm bound).flatMap_right Call.loops
  rw [same] at apart
  rw [inHand, ← apart.count_eq, List.flatMap_cons, List.count_append, beside]

theorem beside_set (traffic : Traffic) (number : Nat) (controller : Controller) (call : Call) :
    (⟨controller, traffic.calls.set number call⟩ : Traffic).beside number =
      traffic.beside number := by
  unfold beside
  rw [List.eraseIdx_set_eq]

theorem mem_set_of_ne {calls : List Call} {number : Nat} {call after other : Call}
    (found : calls[number]? = some call) (member : other ∈ calls) (differ : other ≠ call) :
    other ∈ calls.set number after := by
  obtain ⟨place, present⟩ := List.mem_iff_getElem?.mp member
  have apart : number ≠ place := by
    intro same
    rw [same, present] at found
    exact differ (Option.some.inj found)
  apply List.mem_iff_getElem?.mpr
  refine ⟨place, ?_⟩
  rw [List.getElem?_set_ne apart]
  exact present

theorem Sound.calm {traffic : Traffic} (sound : traffic.Sound) {after : Controller}
    (calm : Controller.Calm traffic.controller after) :
    Sound { traffic with controller := after } := by
  refine ⟨?_, ?_, ?_, ?_, ?_⟩
  · change after.registry.Distinct
    rw [calm.registry]
    exact sound.distinct
  · intro loop
    change after.registry.tasks.count loop + _ = after.panel.liveCount loop
    unfold Panel.liveCount
    rw [calm.registry, calm.live]
    exact sound.owned loop
  · change after.registry.Fits after.panel
    rw [calm.registry]
    exact sound.entries.keeps calm.keeps
  · intro call member
    exact (sound.calls call member).keeps calm.keeps
  · intro context entry found
    change after.registry.find? context = some entry at found
    rw [calm.registry] at found
    exact sound.awaited found

theorem Sound.begin {traffic : Traffic} (sound : traffic.Sound) {call : Call}
    (fresh : call.IsFresh) : (traffic.begin call).Sound := by
  have free := Call.loops_of_fresh fresh
  refine ⟨sound.distinct, ?_, sound.entries, ?_, ?_⟩
  · intro loop
    have same : (traffic.begin call).inHand = traffic.inHand := by
      simp [inHand, Traffic.begin, free]
    rw [same]
    exact sound.owned loop
  · intro other member
    rcases List.mem_append.mp member with known | new
    · exact sound.calls other known
    · rw [List.mem_singleton.mp new]
      exact Call.fits_of_jobless (Call.job?_of_fresh fresh) (Call.left?_of_fresh fresh)
  · intro context entry found idle
    obtain ⟨other, member, awaits⟩ := sound.awaited found idle
    exact ⟨other, List.mem_append_left _ member, awaits⟩

theorem Sound.advance {traffic : Traffic} (sound : traffic.Sound) (number : Nat) :
    (traffic.advance number).Sound := by
  cases found : traffic.calls[number]? with
  | none =>
      rw [advance_absent found]
      exact sound
  | some call =>
      have placed := getElem?_advance found
      rw [advance_found found] at placed ⊢
      have member : call ∈ traffic.calls := List.mem_of_getElem? found
      have fits := Controller.fits_advance sound.entries (sound.calls call member)
      have balanced : traffic.controller.Balanced call (traffic.beside number) := by
        intro loop
        have owned := sound.owned loop
        rw [count_inHand found, ← Nat.add_assoc] at owned
        exact owned
      refine ⟨Controller.distinct_advance sound.distinct call, ?_, fits.1, ?_, ?_⟩
      · intro loop
        have after := Controller.balanced_advance sound.distinct balanced loop
        rw [count_inHand placed, beside_set, ← Nat.add_assoc]
        exact after
      · intro other kept
        rcases List.mem_or_eq_of_mem_set kept with known | new
        · exact (sound.calls other known).keeps (Controller.keeps_advance _ call)
        · rw [new]
          exact fits.2
      · intro context entry registered idle
        rcases Controller.awaits_advance registered idle with awaits | ⟨before, unlike⟩
        · exact ⟨_, List.mem_of_getElem? placed, awaits⟩
        · -- The button waited for another call, which has not moved.
          obtain ⟨other, known, awaits⟩ := sound.awaited before idle
          refine ⟨other, mem_set_of_ne found known ?_, awaits⟩
          intro same
          exact unlike (same ▸ awaits)

theorem Sound.yields {before after : Traffic} {move : Move} (sound : before.Sound)
    (yields : before.Yields move after) : after.Sound := by
  cases yields with
  | begin fresh _ => exact sound.begin fresh
  | advance number => exact sound.advance number
  | calm calm => exact sound.calm calm

theorem Sound.run {traffic : Traffic} (sound : traffic.Sound) (moves : List Move) :
    (traffic.run moves).Sound := by
  induction moves generalizing traffic with
  | nil => exact sound
  | cons move rest ih => exact ih (sound.yields (traffic.yields_step move))

theorem sound_start (config : Config) (source : Source) (decoder : Artwork.Decoder) :
    (start config source decoder).Sound := by
  obtain ⟨sampler, calm⟩ := Controller.calm_start config source decoder
  have blank : Sound ⟨{ animation := config.animation, sampler := sampler }, []⟩ := by
    refine ⟨List.nodup_nil, fun _ => rfl, Registry.fits_empty {}, nofun, ?_⟩
    intro context entry found
    cases found
  exact blank.calm calm

end Traffic

end Marquee
