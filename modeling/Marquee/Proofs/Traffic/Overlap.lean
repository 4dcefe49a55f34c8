import Marquee.Proofs.Traffic.Places

/-!
How many loops draw one button. A call starts its loop outside the registry and installs it later,
so two calls for one button that overlap can both have a loop running; calls that come one after
another never do.
-/

namespace Marquee

namespace Call

def inChargeOf (context : String) : Call → Bool
  | ending job _ => job.context == context
  | starting job => job.context == context
  | installing job _ => job.context == context
  | closing job _ rejected => job.context == context && rejected.isSome
  | leaving other loop => other == context && loop.isSome
  | _ => false

def isClosing : Call → Bool
  | shutdown => true
  | draining => true
  | emptying _ => true
  | _ => false

theorem inChargeOf_of_fresh {call : Call} (fresh : call.IsFresh) (context : String) :
    call.inChargeOf context = false := by
  rcases fresh with ⟨_, _, rfl | rfl⟩ | ⟨_, rfl⟩ | rfl <;> rfl

theorem isClosing_of_fresh {call : Call} (fresh : call.IsFresh) (stays : call ≠ .shutdown) :
    call.isClosing = false := by
  rcases fresh with ⟨_, _, rfl | rfl⟩ | ⟨_, rfl⟩ | rfl
  · rfl
  · rfl
  · rfl
  · exact absurd rfl stays

theorem length_loops {call : Call} (here : call.isClosing = false) : call.loops.length ≤ 1 := by
  cases call with
  | ending job former => cases former <;> simp [loops]
  | closing job installed rejected => cases rejected <;> simp [loops]
  | leaving context loop => cases loop <;> simp [loops]
  | emptying loops => cases here
  | _ => simp [loops]

theorem Fits.inChargeOf {panel : Panel} {call : Call} (fits : call.Fits panel)
    (here : call.isClosing = false) {context : String} {loop : Nat} (held : loop ∈ call.loops)
    (drawn : panel.buttonOf loop = some context) : call.inChargeOf context = true := by
  have same : ∀ {job}, call.job? = some job → job.context = context := by
    intro job known
    unfold Panel.buttonOf at drawn
    rw [fits.face known held, Option.bind_some, fits.context known] at drawn
    exact Option.some.inj drawn
  cases call with
  | ending job former => simp [Call.inChargeOf, same rfl]
  | installing job other => simp [Call.inChargeOf, same rfl]
  | closing job installed rejected =>
      have some : rejected.isSome = true := Option.isSome_of_mem (Option.mem_toList.mp held)
      simp [Call.inChargeOf, same rfl, some]
  | leaving other former =>
      have former : former = some loop := Option.mem_toList.mp held
      subst former
      obtain ⟨face, drawnFace, whose⟩ := fits.left rfl
      unfold Panel.buttonOf at drawn
      rw [drawnFace, Option.bind_some, whose] at drawn
      simp [Call.inChargeOf, Option.some.inj drawn]
  | emptying loops => cases here
  | _ => cases held

end Call

namespace Controller

theorem find?_enter_self (controller : Controller) (context : String) (settings : Json)
    {entry : Entry}
    (found : (controller.enter context settings).1.registry.find? context = some entry) :
    entry.animator.task = none := by
  simp only [enter] at found
  obtain ⟨made, inserted, _, idle⟩ := controller.registry_takeOver context
  rw [inserted, Registry.find?_insert_self] at found
  cases found
  exact idle

theorem find?_enter_other (controller : Controller) {fresh context : String} (settings : Json)
    (differ : context ≠ fresh) :
    (controller.enter fresh settings).1.registry.find? context =
      controller.registry.find? context := by
  simp only [enter]
  obtain ⟨made, inserted, _⟩ := controller.registry_takeOver fresh
  rw [inserted]
  exact Registry.find?_insert_other _ made differ

theorem find?_install_other (controller : Controller) {fresh context : String} (face loop : Nat)
    (differ : context ≠ fresh) :
    (controller.install fresh face loop).1.registry.find? context =
      controller.registry.find? context := by
  rcases controller.install_cases fresh face loop with ⟨_, _, _, installed⟩ | ⟨_, rejected⟩
  · rw [installed]
    exact Registry.find?_insert_other _ _ differ
  · rw [rejected]

theorem install_idle {controller : Controller} {job : Job} {loop : Nat}
    (idle : ∀ {entry}, controller.registry.find? job.context = some entry →
      entry.animator.task = none) :
    (controller.install job.context job.face loop).2.2 = none ∨
      (controller.install job.context job.face loop).1 = controller := by
  rcases controller.install_cases job.context job.face loop with
    ⟨entry, found, _, installed⟩ | ⟨_, rejected⟩
  · rw [installed]
    exact Or.inl (idle found)
  · rw [rejected]
    exact Or.inr rfl

/-- After a section of a call that is then in charge of a button, the button has no loop, if this
was so while the call was in charge before. -/
theorem idle_advance {controller : Controller} {call : Call} {context : String}
    (idle : call.inChargeOf context = true → ∀ {entry},
      controller.registry.find? context = some entry → entry.animator.task = none)
    (inCharge : (controller.advance call).2.inChargeOf context = true) {entry : Entry}
    (found : (controller.advance call).1.registry.find? context = some entry) :
    entry.animator.task = none := by
  cases call with
  | appear fresh settings =>
      cases eq_of_beq (show (fresh == context) = true from inCharge)
      exact find?_enter_self
        (controller.note .debug "button appeared" [("context", .text context)]) context settings
        found
  | settings fresh settings =>
      cases eq_of_beq (show (fresh == context) = true from inCharge)
      exact find?_enter_self
        (controller.note .debug "button settings received" [("context", .text context)]) context
        settings found
  | ending job former => exact idle inCharge found
  | starting job => exact idle inCharge found
  | installing job loop =>
      obtain ⟨own, rejected⟩ := Bool.and_eq_true_iff.mp inCharge
      cases eq_of_beq own
      change (controller.install job.context job.face loop).1.registry.find? _ = _ at found
      change (controller.install job.context job.face loop).2.2.isSome = true at rejected
      -- A loop that came back was rejected, since there was none to displace.
      rcases install_idle (idle own) with none | same
      · rw [none] at rejected
        cases rejected
      · rw [same] at found
        exact idle own found
  | disappear gone =>
      cases known : controller.registry.find? gone with
      | none =>
          rw [advance_disappear_absent known] at inCharge
          cases inCharge
      | some kept =>
          rw [advance_disappear_found known] at inCharge found
          cases eq_of_beq (Bool.and_eq_true_iff.mp inCharge).1
          rw [Registry.find?_erase_self] at found
          cases found
  | emptying loops => cases loops <;> cases inCharge
  | _ => cases inCharge

theorem find?_of_advance {controller : Controller} {call : Call} {context : String}
    (before : call.inChargeOf context = false)
    (after : (controller.advance call).2.inChargeOf context = false) {entry : Entry}
    (found : (controller.advance call).1.registry.find? context = some entry) :
    controller.registry.find? context = some entry := by
  cases call with
  | appear fresh settings =>
      have differ : fresh ≠ context := ne_of_beq_false after
      have same := find?_enter_other
        (controller.note .debug "button appeared" [("context", .text fresh)]) settings differ.symm
      exact same.symm.trans found
  | settings fresh settings =>
      have differ : fresh ≠ context := ne_of_beq_false after
      have same := find?_enter_other
        (controller.note .debug "button settings received" [("context", .text fresh)]) settings
        differ.symm
      exact same.symm.trans found
  | installing job loop =>
      have differ : job.context ≠ context := ne_of_beq_false before
      rw [← find?_install_other controller job.face loop differ.symm]
      exact found
  | closing job installed rejected =>
      simp only [advance, registry_noteStarted] at found
      exact found
  | disappear gone =>
      cases known : controller.registry.find? gone with
      | none =>
          rw [advance_disappear_absent known] at found
          exact found
      | some kept =>
          rw [advance_disappear_found known] at found
          exact Registry.find?_of_erase found
  | draining => cases found
  | emptying loops => cases loops <;> exact found
  | _ => exact found

theorem isClosing_advance {controller : Controller} {call : Call}
    (here : call.isClosing = false) : (controller.advance call).2.isClosing = false := by
  cases call with
  | disappear gone =>
      cases known : controller.registry.find? gone with
      | none =>
          rw [advance_disappear_absent known]
          rfl
      | some entry =>
          rw [advance_disappear_found known]
          rfl
  | shutdown => cases here
  | draining => cases here
  | emptying loops => cases here
  | _ => rfl

end Controller

namespace Traffic

variable {traffic : Traffic}

def loopsOf (traffic : Traffic) (context : String) : List Nat :=
  (List.range traffic.controller.panel.loops.length).filter fun loop =>
    traffic.controller.panel.isLive loop &&
      traffic.controller.panel.buttonOf loop == some context

def inCharge (traffic : Traffic) (context : String) : Nat :=
  traffic.calls.countP (Call.inChargeOf context)

def loopsAt (traffic : Traffic) (context : String) : List Nat :=
  ((traffic.controller.registry.find? context).bind (·.animator.task)).toList ++
    (traffic.calls.filter (Call.inChargeOf context)).flatMap Call.loops

def IsOpen (traffic : Traffic) : Prop := ∀ call ∈ traffic.calls, call.isClosing = false

theorem mem_loopsOf {context : String} {loop : Nat} : loop ∈ traffic.loopsOf context ↔
    traffic.controller.panel.isLive loop = true ∧
      traffic.controller.panel.buttonOf loop = some context := by
  unfold loopsOf
  rw [List.mem_filter, List.mem_range, Bool.and_eq_true, beq_iff_eq]
  constructor
  · exact And.right
  · rintro ⟨live, drawn⟩
    refine ⟨?_, live, drawn⟩
    by_contra beyond
    unfold Panel.isLive at live
    rw [List.getElem?_eq_none (Nat.le_of_not_lt beyond)] at live
    cases live

theorem Sound.mem_loopsAt (sound : traffic.Sound) (isOpen : traffic.IsOpen) {context : String}
    {loop : Nat} (member : loop ∈ traffic.loopsOf context) : loop ∈ traffic.loopsAt context := by
  obtain ⟨live, drawn⟩ := mem_loopsOf.mp member
  obtain ⟨place, held⟩ := sound.exists_place live
  unfold loopsAt
  cases place with
  | button other =>
      obtain ⟨entry, found, task⟩ := held
      have whose := sound.buttonOf_task found task
      rw [drawn] at whose
      cases whose
      simp [found, task]
  | call number =>
      obtain ⟨call, found, inHand⟩ := held
      have known := List.mem_of_getElem? found
      have inCharge := (sound.calls call known).inChargeOf (isOpen call known) inHand drawn
      apply List.mem_append_right
      exact List.mem_flatMap.mpr ⟨call, List.mem_filter.mpr ⟨known, inCharge⟩, inHand⟩

theorem nodup_loopsOf (traffic : Traffic) (context : String) : (traffic.loopsOf context).Nodup :=
  List.nodup_range.filter _

theorem length_flatMap_loops {calls : List Call} (isOpen : ∀ call ∈ calls, call.isClosing = false) :
    (calls.flatMap Call.loops).length ≤ calls.length := by
  induction calls with
  | nil => exact Nat.le_refl 0
  | cons call rest ih =>
      have first := Call.length_loops (isOpen call List.mem_cons_self)
      have others := ih fun other member => isOpen other (List.mem_cons_of_mem _ member)
      simp only [List.flatMap_cons, List.length_append, List.length_cons]
      omega

theorem Sound.length_loopsOf (sound : traffic.Sound) (isOpen : traffic.IsOpen) (context : String) :
    (traffic.loopsOf context).length ≤ (traffic.loopsAt context).length :=
  (List.subperm_of_subset (nodup_loopsOf traffic context) fun _ member =>
    sound.mem_loopsAt isOpen member).length_le

theorem length_inHand (isOpen : traffic.IsOpen) (context : String) :
    ((traffic.calls.filter (Call.inChargeOf context)).flatMap Call.loops).length ≤
      traffic.inCharge context := by
  rw [inCharge, List.countP_eq_length_filter]
  apply length_flatMap_loops
  intro call member
  exact isOpen call (List.mem_filter.mp member).1

theorem length_loopsAt (isOpen : traffic.IsOpen) (context : String) :
    (traffic.loopsAt context).length ≤ 1 + traffic.inCharge context := by
  have inHand := length_inHand isOpen context
  have installed := Option.length_toList_le
    (o := (traffic.controller.registry.find? context).bind (·.animator.task))
  unfold loopsAt
  rw [List.length_append]
  omega

/-- While a call is in charge of a button, the button itself has no loop. -/
def Apart (traffic : Traffic) (context : String) : Prop :=
  ∀ call ∈ traffic.calls, call.inChargeOf context = true → ∀ {entry},
    traffic.controller.registry.find? context = some entry → entry.animator.task = none

theorem Apart.length_loopsAt {context : String} (apart : traffic.Apart context)
    (isOpen : traffic.IsOpen) (single : traffic.inCharge context ≤ 1) :
    (traffic.loopsAt context).length ≤ 1 := by
  have bound := Traffic.length_loopsAt isOpen context
  by_cases free : traffic.inCharge context = 0
  · omega
  · obtain ⟨call, member, inCharge⟩ := List.countP_pos_iff.mp (Nat.pos_of_ne_zero free)
    have none : (traffic.controller.registry.find? context).bind (·.animator.task) = none := by
      cases found : traffic.controller.registry.find? context with
      | none => rfl
      | some entry => exact apart call member inCharge found
    have inHand := length_inHand isOpen context
    unfold loopsAt
    rw [none, Option.toList_none, List.nil_append]
    omega

theorem not_inCharge_beside {number : Nat} {call other : Call} {context : String}
    (single : traffic.inCharge context ≤ 1) (found : traffic.calls[number]? = some call)
    (inCharge : call.inChargeOf context = true)
    (beside : other ∈ traffic.calls.eraseIdx number) : other.inChargeOf context = false := by
  obtain ⟨bound, same⟩ := List.getElem?_eq_some_iff.mp found
  have apart := List.getElem_cons_eraseIdx_perm bound
  rw [Traffic.inCharge, ← apart.countP_eq, same, List.countP_cons_of_pos inCharge] at single
  have none : (traffic.calls.eraseIdx number).countP (Call.inChargeOf context) = 0 := by omega
  exact Bool.eq_false_iff.mpr (List.countP_eq_zero.mp none other beside)

theorem Apart.advance {context : String} (apart : traffic.Apart context) {number : Nat}
    (before : traffic.inCharge context ≤ 1)
    (after : (traffic.advance number).inCharge context ≤ 1) :
    (traffic.advance number).Apart context := by
  cases found : traffic.calls[number]? with
  | none =>
      rw [advance_absent found]
      exact apart
  | some call =>
      have placed := getElem?_advance found
      rw [advance_found found] at after placed ⊢
      have bound := (List.getElem?_eq_some_iff.mp found).1
      intro other member inCharge entry registered
      rcases List.mem_cons.mp ((List.set_perm_cons_eraseIdx bound _).mem_iff.mp member) with
        same | beside
      · subst same
        exact Controller.idle_advance (apart call (List.mem_of_getElem? found)) inCharge registered
      · -- Another call is in charge, so this one is not, and leaves the button alone.
        have notBefore : call.inChargeOf context = false := by
          apply Bool.eq_false_iff.mpr
          intro was
          rw [not_inCharge_beside before found was beside] at inCharge
          cases inCharge
        have notAfter : (traffic.controller.advance call).2.inChargeOf context = false := by
          apply Bool.eq_false_iff.mpr
          intro is
          rw [← List.eraseIdx_set_eq] at beside
          rw [not_inCharge_beside after placed is beside] at inCharge
          cases inCharge
        have still := Controller.find?_of_advance notBefore notAfter registered
        exact apart other (List.mem_of_mem_eraseIdx beside) inCharge still

theorem Apart.calm {context : String} (apart : traffic.Apart context) {after : Controller}
    (calm : Controller.Calm traffic.controller after) :
    Apart { traffic with controller := after } context := by
  intro call member inCharge entry found
  change after.registry.find? context = some entry at found
  rw [calm.registry] at found
  exact apart call member inCharge found

theorem Apart.begin {context : String} (apart : traffic.Apart context) {call : Call}
    (fresh : call.inChargeOf context = false) : (traffic.begin call).Apart context := by
  intro other member inCharge entry found
  rcases List.mem_append.mp member with known | new
  · exact apart other known inCharge found
  · rw [List.mem_singleton.mp new, fresh] at inCharge
    cases inCharge

theorem Apart.yields {before after : Traffic} {move : Move} {context : String}
    (apart : before.Apart context) (yields : before.Yields move after)
    (singleBefore : before.inCharge context ≤ 1) (singleAfter : after.inCharge context ≤ 1) :
    after.Apart context := by
  cases yields with
  | begin fresh _ => exact apart.begin (Call.inChargeOf_of_fresh fresh context)
  | advance number => exact apart.advance singleBefore singleAfter
  | calm calm => exact apart.calm calm

theorem Apart.run {context : String} (apart : traffic.Apart context) (moves : List Move)
    (serial : ∀ count, (traffic.run (moves.take count)).inCharge context ≤ 1) :
    (traffic.run moves).Apart context := by
  induction moves generalizing traffic with
  | nil => exact apart
  | cons move rest ih =>
      have next := apart.yields (traffic.yields_step move) (serial 0) (serial 1)
      exact ih next fun count => serial (count + 1)

theorem IsOpen.yields {before after : Traffic} {move : Move} (isOpen : before.IsOpen)
    (yields : before.Yields move after) (stays : move ≠ .shutdown) : after.IsOpen := by
  cases yields with
  | begin fresh ends =>
      intro call member
      rcases List.mem_append.mp member with known | new
      · exact isOpen call known
      · rw [List.mem_singleton.mp new]
        exact Call.isClosing_of_fresh fresh fun same => stays (ends same)
  | advance number =>
      cases found : before.calls[number]? with
      | none =>
          rw [advance_absent found]
          exact isOpen
      | some call =>
          rw [advance_found found]
          intro other member
          rcases List.mem_or_eq_of_mem_set member with known | new
          · exact isOpen other known
          · rw [new]
            exact Controller.isClosing_advance (isOpen call (List.mem_of_getElem? found))
  | calm calm => exact isOpen

theorem IsOpen.run (isOpen : traffic.IsOpen) {moves : List Move} (stays : .shutdown ∉ moves) :
    (traffic.run moves).IsOpen := by
  induction moves generalizing traffic with
  | nil => exact isOpen
  | cons move rest ih =>
      have other : move ≠ .shutdown := fun same => stays (same ▸ List.mem_cons_self)
      exact ih (isOpen.yields (traffic.yields_step move) other) fun later =>
        stays (List.mem_cons_of_mem move later)

theorem Settled.length_loopsOf (settled : traffic.Settled) {context : String}
    (registered : context ∈ traffic.controller.registry.contexts) :
    (traffic.loopsOf context).length = 1 := by
  cases found : traffic.controller.registry.find? context with
  | none => exact absurd registered (Registry.find?_eq_none_iff.mp found)
  | some entry =>
      obtain ⟨loop, _, _, only⟩ := settled.staffed found
      have single : (traffic.loopsOf context).Perm [loop] := by
        apply (List.perm_ext_iff_of_nodup (nodup_loopsOf traffic context)
          (List.pairwise_singleton _ loop)).mpr
        intro other
        rw [mem_loopsOf, only, List.mem_singleton]
      exact single.length_eq

/-- Calls for one button that overlap may each have a loop running, and so there are at most as many
loops for it as calls in charge of it, and one. Where the calls come one after another, there is
never more than one loop: each ends the former loop before it starts its own. And when all calls
have returned, there is one. -/
theorem length_loopsOf_le (config : Config) (source : Source) (decoder : Artwork.Decoder)
    (moves : List Move) (context : String) (stays : .shutdown ∉ moves) :
    let traffic := (start config source decoder).run moves
    (traffic.loopsOf context).length ≤ 1 + traffic.inCharge context ∧
    ((∀ count, ((start config source decoder).run (moves.take count)).inCharge context ≤ 1) →
      (traffic.loopsOf context).length ≤ 1) ∧
    (traffic.isQuiet = true → context ∈ traffic.controller.registry.contexts →
      (traffic.loopsOf context).length = 1) := by
  intro traffic
  have sound : traffic.Sound := (sound_start config source decoder).run moves
  have fresh : (start config source decoder).IsOpen := nofun
  have isOpen : traffic.IsOpen := fresh.run stays
  have bound := sound.length_loopsOf isOpen context
  refine ⟨Nat.le_trans bound (length_loopsAt isOpen context), ?_, ?_⟩
  · intro serial
    have idle : (start config source decoder).Apart context := nofun
    have single : traffic.inCharge context ≤ 1 := by
      have whole := serial moves.length
      rw [List.take_length] at whole
      exact whole
    exact Nat.le_trans bound ((idle.run moves serial).length_loopsAt isOpen single)
  · intro quiet registered
    exact (sound.settled quiet).length_loopsOf registered

def inTurn : List Move :=
  [.event (.willAppear "key" .null), .advance 0, .advance 0, .advance 0, .tick 0, .advance 0,
    .advance 0, .event (.didReceiveSettings "key" .null), .tick 0, .advance 1, .advance 1,
    .advance 1, .tick 1, .advance 1, .advance 1]

theorem length_loopsOf_inTurn :
    let traffic := (start {} {} Artwork.decode?).run inTurn
    .shutdown ∉ inTurn ∧
      (∀ count,
        ((start {} {} Artwork.decode?).run (inTurn.take count)).inCharge "key" ≤ 1) ∧
      traffic.isQuiet = true ∧ "key" ∈ traffic.controller.registry.contexts ∧
      (traffic.loopsOf "key").length ≤ 1 + traffic.inCharge "key" ∧
      (traffic.loopsOf "key").length ≤ 1 ∧ (traffic.loopsOf "key").length = 1 := by
  have stays : .shutdown ∉ inTurn := by simp [inTurn]
  have serial : ∀ count,
      ((start {} {} Artwork.decode?).run (inTurn.take count)).inCharge "key" ≤ 1 := by
    intro count
    have early : ∀ count < 15,
        ((start {} {} Artwork.decode?).run (inTurn.take count)).inCharge "key" ≤ 1 := by
      decide +kernel
    by_cases within : count < 15
    · exact early count within
    · have whole : inTurn.take count = inTurn := List.take_of_length_le (Nat.le_of_not_lt within)
      rw [whole]
      decide +kernel
  have quiet : ((start {} {} Artwork.decode?).run inTurn).isQuiet = true := by decide +kernel
  have registered :
      "key" ∈ ((start {} {} Artwork.decode?).run inTurn).controller.registry.contexts := by
    decide +kernel
  obtain ⟨bound, single, settled⟩ := length_loopsOf_le {} {} Artwork.decode? inTurn "key" stays
  exact ⟨stays, serial, quiet, registered, bound, single serial, settled quiet registered⟩

def Move.configures (context : String) : Move → Bool
  | .event (.willAppear other _) => other == context
  | .event (.didReceiveSettings other _) => other == context
  | .advance _ => true
  | .tick _ => true
  | _ => false

def overlapping : List Move :=
  [.event (.willAppear "key" .null), .event (.didReceiveSettings "key" .null), .advance 0,
    .advance 1, .advance 0, .advance 1, .advance 0, .advance 1]

/-- Of two calls that overlap, the second may start its loop before the first has installed its own,
and then two loops draw the button. -/
theorem two_loops_of_overlapping_calls :
    ¬ ∀ (config : Config) (source : Source) (context : String) (moves : List Move),
      (∀ move ∈ moves, move.configures context = true) →
        (((start config source Artwork.decode?).run moves).loopsOf context).length ≤ 1 := by
  intro never
  have one := never {} {} "key" overlapping (by decide)
  have two : (((start {} {} Artwork.decode?).run overlapping).loopsOf "key").length = 2 := by
    decide +kernel
  omega

end Traffic

end Marquee
