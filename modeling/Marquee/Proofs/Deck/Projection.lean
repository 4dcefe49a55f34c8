import Marquee.Proofs.Deck.Aspect

/-!
Each turn of the controller does to the aspect of a button what the aspect says.
-/

namespace Marquee

namespace Controller

variable {controller : Controller} {context : String}

structure Staff (controller : Controller) (context : String) (entry : Entry) (number : Nat)
    (loop : Loop) (face : Face) : Prop where
  found : controller.registry.find? context = some entry
  task : entry.animator.task = some number
  present : controller.panel.loops[number]? = some loop
  draws : loop.face = entry.face
  live : loop.live = true
  shown : controller.panel.faces[entry.face]? = some face
  whose : face.context = context

theorem Sound.staffed (sound : controller.Sound) {entry : Entry}
    (found : controller.registry.find? context = some entry) :
    ∃ number loop face, controller.Staff context entry number loop face := by
  obtain ⟨number, task⟩ := Traffic.Sound.has_task sound rfl found
  obtain ⟨loop, present, draws⟩ := Option.map_eq_some_iff.mp (sound.entries.face found task)
  obtain ⟨face, shown, whose⟩ := Option.map_eq_some_iff.mp (sound.entries.context found)
  have held : (⟨controller, []⟩ : Traffic).Holds number (.button context) := ⟨entry, found, task⟩
  have live := Traffic.Sound.live_of_holds sound held
  simp only [Panel.isLive, present] at live
  exact ⟨number, loop, face, found, task, present, draws, live, shown, whose⟩

theorem buttonAt_absent (absent : controller.registry.find? context = none) :
    controller.buttonAt context = none := by
  simp only [buttonAt, absent, Option.bind_none]

theorem buttonAt_found {entry : Entry} {face : Face} {number : Nat} {pace : Nat × Nat}
    (found : controller.registry.find? context = some entry)
    (shown : controller.panel.faces[entry.face]? = some face)
    (task : entry.animator.task = some number) (runs : controller.panel.paceOf number = some pace) :
    controller.buttonAt context = some ⟨face, pace.1, pace.2⟩ := by
  simp only [buttonAt, found, shown, task, runs, Option.bind_some, Option.map_some]

section Staff

variable {entry : Entry} {number : Nat} {loop : Loop} {face : Face}
  (staff : controller.Staff context entry number loop face)
include staff

theorem Staff.installed : controller.loopAt context = some number := by
  simp only [loopAt, staff.found, staff.task, Option.bind_some]

theorem Staff.pace : controller.panel.paceOf number = some (loop.period, loop.tick) := by
  rw [Panel.paceOf, staff.present, Option.map_some]

theorem Staff.button : controller.buttonAt context = some ⟨face, loop.period, loop.tick⟩ :=
  buttonAt_found staff.found staff.shown staff.task staff.pace

end Staff

theorem Sound.textWidth?_eq (sound : controller.Sound) (context : String) :
    controller.textWidth? context =
      (controller.buttonAt context).map fun button => button.face.width := by
  cases found : controller.registry.find? context with
  | none =>
      rw [buttonAt_absent found]
      simp only [textWidth?, found, Option.bind_none, Option.map_none]
  | some entry =>
      obtain ⟨number, loop, face, staff⟩ := sound.staffed found
      rw [staff.button]
      simp only [textWidth?, found, Option.bind_some, staff.shown, Option.map_some]

/-- What is done to the face of a button and nothing else of it is done to the button. -/
theorem buttonAt_changed {before after : Controller} (change : Face → Face)
    (registry : after.registry.find? context = before.registry.find? context)
    (faces : ∀ {entry}, before.registry.find? context = some entry →
      after.panel.faces[entry.face]? = (before.panel.faces[entry.face]?).map change)
    (paces : ∀ loop, before.loopAt context = some loop →
      after.panel.paceOf loop = before.panel.paceOf loop) :
    after.buttonAt context =
      (before.buttonAt context).map fun button => { button with face := change button.face } := by
  cases found : before.registry.find? context with
  | none =>
      rw [buttonAt_absent (registry.trans found), buttonAt_absent found]
      rfl
  | some entry =>
      simp only [buttonAt, registry, found, Option.bind_some, faces found]
      cases shown : before.panel.faces[entry.face]? with
      | none => rfl
      | some face =>
          cases task : entry.animator.task with
          | none => rfl
          | some loop =>
              have same := paces loop (by simp only [loopAt, found, task, Option.bind_some])
              simp only [Option.map_some, Option.bind_some, same, Option.map_map]
              rfl

theorem buttonAt_kept {before after : Controller}
    (registry : after.registry.find? context = before.registry.find? context)
    (faces : ∀ {entry}, before.registry.find? context = some entry →
      after.panel.faces[entry.face]? = before.panel.faces[entry.face]?)
    (paces : ∀ loop, before.loopAt context = some loop →
      after.panel.paceOf loop = before.panel.paceOf loop) :
    after.buttonAt context = before.buttonAt context := by
  have unchanged : ∀ {entry}, before.registry.find? context = some entry →
      after.panel.faces[entry.face]? = (before.panel.faces[entry.face]?).map id := by
    intro entry found
    rw [Option.map_id, faces found]
    rfl
  have same := buttonAt_changed id registry unchanged paces
  simpa using same

theorem aspect_note (level : Log.Level) (message : String) (values : List (String × Log.Value)) :
    (controller.note level message values).aspect context = controller.aspect context := rfl

section Restart

/-- After a button was taken over, a loop is installed in it and displaces none, unless the registry
was changed in between. -/
theorem install_taken (controller : Controller) (context : String) {between : Controller}
    (kept : between.registry = (controller.takeOver context).1.registry) (loop : Nat) :
    let face := (controller.takeOver context).2.1
    between.install context face loop =
      ({ between with registry := between.registry.insert context ⟨face, ⟨some loop, false⟩⟩ },
        true, none) := by
  obtain ⟨entry, inserted, face, idle⟩ := controller.registry_takeOver context
  have found : between.registry.find? context = some entry := by
    rw [kept, inserted]
    exact Registry.find?_insert_self _ _ _
  simp only [install, found, face, if_true, Animator.install, idle]

/-- The new loop is always installed, and no other is displaced by it. -/
theorem restart_eq (controller : Controller) (context : String) (settings : Json) :
    let period := controller.periodFor settings
    let taken := controller.takeOver context
    let spawned := (taken.1.endLoop? taken.2.2).spawn context taken.2.1 period
    controller.restart context settings =
      ({ spawned.1 with
        registry := taken.1.registry.insert context ⟨taken.2.1, ⟨some spawned.2, false⟩⟩ } :
          Controller).noteStarted context period true := by
  intro period taken spawned
  simp only [restart]
  rw [install_taken controller context]
  · rfl
  · rfl

theorem takeOver_steady (controller : Controller) (context : String) :
    let taken := (controller.takeOver context).1
    taken.animation = controller.animation ∧ taken.sampler = controller.sampler ∧
      taken.panel.loops = controller.panel.loops ∧ taken.panel.sent = controller.panel.sent := by
  cases found : controller.registry.find? context with
  | none =>
      rw [takeOver_absent found]
      exact ⟨rfl, rfl, rfl, rfl⟩
  | some entry =>
      rw [takeOver_found found]
      exact ⟨rfl, rfl, rfl, rfl⟩

theorem Sound.face_takeOver (sound : controller.Sound) (context : String) :
    let newcomer : Face := { context := context, width := controller.animation.initialWidth }
    let taken := controller.takeOver context
    taken.1.panel.faces[taken.2.1]? =
      some (((controller.buttonAt context).map Button.face).getD newcomer).markDirty := by
  cases found : controller.registry.find? context with
  | none =>
      rw [takeOver_absent found, buttonAt_absent found]
      exact List.getElem?_concat_length
  | some entry =>
      obtain ⟨number, loop, face, staff⟩ := sound.staffed found
      rw [takeOver_found found, staff.button]
      simp only [Panel.face_changeFace_self, staff.shown, Option.map_some, Option.getD_some]

theorem Sound.face_takeOver_other (sound : controller.Sound) {other : String} {entry : Entry}
    (differ : other ≠ context) (found : controller.registry.find? other = some entry) :
    (controller.takeOver context).1.panel.faces[entry.face]? =
      controller.panel.faces[entry.face]? := by
  obtain ⟨_, _, _, staff⟩ := sound.staffed found
  cases taken : controller.registry.find? context with
  | none =>
      rw [takeOver_absent taken]
      exact List.getElem?_append_left (List.getElem?_eq_some_iff.mp staff.shown).1
  | some former =>
      rw [takeOver_found taken]
      exact controller.panel.face_changeFace_other (sound.entries.face_ne differ found taken) _

theorem panel_restart (controller : Controller) (context : String) (settings : Json) :
    let taken := controller.takeOver context
    (controller.restart context settings).panel =
      ((taken.1.panel.endLoop? taken.2.2).startLoop taken.2.1
        (controller.periodFor settings)).1 := by
  rw [restart_eq]
  rfl

theorem registry_restart (controller : Controller) (context : String) (settings : Json) :
    let taken := controller.takeOver context
    (controller.restart context settings).registry =
      taken.1.registry.insert context
        ⟨taken.2.1, ⟨some (controller.panel.loops.length), false⟩⟩ := by
  have length := length_loops_endLoop? (controller.takeOver context).1
    (controller.takeOver context).2.2
  rw [loops_takeOver] at length
  rw [restart_eq, ← length]
  rfl

/-- The loops that there are keep their periods and offsets. -/
theorem paceOf_restart (other : String) (settings : Json) {loop : Nat} {pace : Nat × Nat}
    (known : controller.panel.paceOf loop = some pace) :
    (controller.restart other settings).panel.paceOf loop = some pace := by
  have kept : ((controller.takeOver other).1.panel.endLoop?
      (controller.takeOver other).2.2).paceOf loop = some pace := by
    rw [Panel.paceOf_endLoop?, Panel.paceOf, loops_takeOver]
    exact known
  rw [panel_restart]
  exact Panel.paceOf_startLoop _ _ _ kept

/-- What a restart leaves to all buttons. -/
theorem restart_steady (controller : Controller) (context : String) (settings : Json) :
    let after := controller.restart context settings
    after.animation = controller.animation ∧
      after.sampler.unlogged = controller.sampler.unlogged ∧
      after.panel.sent = controller.panel.sent := by
  obtain ⟨animation, sampler, _, sent⟩ := controller.takeOver_steady context
  have panel := controller.panel_restart context settings
  refine ⟨?_, ?_, ?_⟩
  · rw [restart_eq]
    exact animation
  · rw [restart_eq]
    change (controller.takeOver context).1.sampler.unlogged = _
    rw [sampler]
  · rw [panel]
    exact (Panel.sent_endLoop? _ _).trans sent

theorem Sound.aspect_restart (sound : controller.Sound) (context : String) (settings : Json) :
    (controller.restart context settings).aspect context =
      (controller.aspect context).restart context settings := by
  obtain ⟨animation, sampler, sent⟩ := controller.restart_steady context settings
  have face := sound.face_takeOver context
  have length :
      (controller.takeOver context).1.panel.loops.length = controller.panel.loops.length :=
    congrArg List.length (loops_takeOver controller context)
  apply Aspect.ext
  · exact animation
  · exact sampler
  · have ended := length_loops_endLoop? (controller.takeOver context).1
      (controller.takeOver context).2.2
    have placed : (controller.restart context settings).registry.find? context = some
        ⟨(controller.takeOver context).2.1, ⟨some controller.panel.loops.length, false⟩⟩ := by
      rw [registry_restart]
      exact Registry.find?_insert_self _ _ _
    have paced : (controller.restart context settings).panel.paceOf controller.panel.loops.length =
        some (controller.periodFor settings, 0) := by
      rw [panel_restart, ← length, ← ended]
      exact Panel.paceOf_startLoop_self _ _ _
    refine buttonAt_found placed ?_ rfl paced
    rw [panel_restart]
    change ((controller.takeOver context).1.panel.endLoop? _).faces[_]? = _
    rw [Panel.faces_endLoop?]
    exact face
  · unfold aspect sentTo
    rw [sent]
    rfl

theorem Sound.aspect_restart_other (sound : controller.Sound) {other : String}
    (differ : context ≠ other) (settings : Json) :
    (controller.restart other settings).aspect context = controller.aspect context := by
  obtain ⟨animation, sampler, sent⟩ := controller.restart_steady other settings
  apply Aspect.ext
  · exact animation
  · exact sampler
  · refine buttonAt_kept ?_ ?_ ?_
    · obtain ⟨entry, inserted, _⟩ := controller.registry_takeOver other
      rw [registry_restart, Registry.find?_insert_other _ _ differ, inserted,
        Registry.find?_insert_other _ _ differ]
    · intro entry found
      rw [panel_restart, ← sound.face_takeOver_other differ found]
      change ((controller.takeOver other).1.panel.endLoop? _).faces[_]? = _
      rw [Panel.faces_endLoop?]
    · intro loop installed
      obtain ⟨entry, found, task⟩ := Option.bind_eq_some_iff.mp installed
      obtain ⟨number, running, _, staff⟩ := sound.staffed found
      cases task.symm.trans staff.task
      rw [paceOf_restart other settings staff.pace, staff.pace]
  · unfold aspect sentTo
    rw [sent]

end Restart

section Others

theorem disappear_absent (absent : controller.registry.find? context = none) :
    controller.disappear context = controller := by
  simp only [disappear, remove, absent, Option.map_none]

theorem disappear_found {entry : Entry}
    (found : controller.registry.find? context = some entry) :
    controller.disappear context =
      ({ controller with registry := controller.registry.erase context }.endLoop?
        entry.animator.task).note .debug "button disappeared" [("context", .text context)] := by
  simp only [disappear, remove, found, Option.map_some, Animator.stop]

theorem aspect_disappear (controller : Controller) (context : String) :
    (controller.disappear context).aspect context =
      { controller.aspect context with button := none } := by
  cases found : controller.registry.find? context with
  | none =>
      rw [disappear_absent found]
      apply Aspect.ext <;> try rfl
      exact buttonAt_absent found
  | some entry =>
      rw [disappear_found found, aspect_note]
      apply Aspect.ext
      · rfl
      · rfl
      · exact buttonAt_absent (Registry.find?_erase_self _ _)
      · simp only [aspect, sentTo, endLoop?, Panel.sent_endLoop?]

theorem aspect_disappear_other {other : String} (differ : context ≠ other) :
    (controller.disappear other).aspect context = controller.aspect context := by
  cases found : controller.registry.find? other with
  | none => rw [disappear_absent found]
  | some entry =>
      rw [disappear_found found, aspect_note]
      apply Aspect.ext
      · rfl
      · rfl
      · refine buttonAt_kept ?_ ?_ ?_
        · exact Registry.find?_erase_other _ differ
        · intro kept _
          simp only [endLoop?, Panel.faces_endLoop?]
        · intro loop _
          exact Panel.paceOf_endLoop? _ _ _
      · simp only [aspect, sentTo, endLoop?, Panel.sent_endLoop?]

theorem aspect_changeFont (controller : Controller) (context : String) (size : Nat) :
    (controller.changeFont context size).aspect context =
      (controller.aspect context).changeFace
        (·.setWidth ((controller.aspect context).animation.textWidth size)) := by
  cases found : controller.registry.find? context with
  | none =>
      have absent : (controller.aspect context).button = none := buttonAt_absent found
      simp only [changeFont, found, aspect_note, Aspect.changeFace, absent, Option.map_none]
      rw [← absent]
  | some entry =>
      simp only [changeFont, found, aspect_note]
      apply Aspect.ext
      · rfl
      · rfl
      · refine buttonAt_changed (·.setWidth (controller.animation.textWidth size)) rfl ?_ ?_
        · intro same again
          rw [found] at again
          cases again
          exact Panel.face_changeFace_self _ _ _
        · intro loop _
          rfl
      · rfl

theorem Sound.aspect_changeFont_other (sound : controller.Sound) {other : String}
    (differ : context ≠ other) (size : Nat) :
    (controller.changeFont other size).aspect context = controller.aspect context := by
  cases found : controller.registry.find? other with
  | none => simp only [changeFont, found, aspect_note]
  | some entry =>
      simp only [changeFont, found, aspect_note]
      apply Aspect.ext
      · rfl
      · rfl
      · refine buttonAt_kept rfl ?_ ?_
        · intro kept known
          exact Panel.face_changeFace_other _ (sound.entries.face_ne differ known found) _
        · intro loop _
          rfl
      · rfl

/-- What is published reaches every button. -/
theorem Sound.aspect_published (sound : controller.Sound) {result told : Sampler × Bool}
    (agrees : Sampler.Agrees told result) (context : String) :
    (controller.published result).aspect context =
      (controller.aspect context).published told := by
  obtain ⟨sampler, changed⟩ := result
  obtain ⟨unlogged, same⟩ := agrees
  simp only at unlogged same
  simp only [published, Aspect.published, same, unlogged]
  cases changed with
  | false => rfl
  | true =>
      apply Aspect.ext
      · rfl
      · rfl
      · refine buttonAt_changed Face.markDirty rfl ?_ ?_
        · intro entry found
          have listed : entry.face ∈ controller.registry.faces :=
            List.mem_map.mpr ⟨_, Registry.mem_of_find? found, rfl⟩
          exact Panel.face_markAll (sound.entries.nodup_faces sound.distinct) listed _
        · intro loop _
          exact Panel.paceOf_markAll _ _ _
      · unfold aspect sentTo
        exact congrArg (List.filter _) (Panel.sent_markAll _ _)

theorem aspect_shutdown (controller : Controller) (context : String) :
    controller.shutdown.aspect context =
      { controller.aspect context with
        sampler := (controller.aspect context).sampler.detach.unlogged, button := none } := by
  apply Aspect.ext
  · rfl
  · rfl
  · rfl
  · unfold aspect sentTo
    exact congrArg (List.filter _) (Panel.sent_endLoops _ _)

end Others

section Passes

theorem tickAt_absent (absent : controller.registry.find? context = none) :
    controller.tickAt context = controller := by
  simp only [tickAt, loopAt, absent, Option.bind_none]

theorem filter_sent (drawn : List HostCall) (owner : String)
    (whose : ∀ call ∈ drawn, call.context? = some owner) (context : String) :
    drawn.filter (fun call => call.context? == some context) =
      if owner = context then drawn else [] := by
  by_cases same : owner = context
  · rw [if_pos same, List.filter_eq_self]
    intro call member
    rw [whose call member, same, beq_self_eq_true]
  · rw [if_neg same, List.filter_eq_nil_iff]
    intro call member
    simpa [whose call member] using same

def drawing (controller : Controller) (face : Face) (loop : Loop) : Drawn :=
  Scene.draw ⟨face, controller.media⟩ controller.animation.target Scene.undisturbed loop.tick

structure Ticks (before after : Controller) (context : String) (entry : Entry) (number : Nat)
    (loop : Loop) (face : Face) : Prop extends before.Staff context entry number loop face where
  animation : after.animation = before.animation
  sampler : after.sampler = before.sampler
  registry : after.registry = before.registry
  faces : after.panel.faces =
    before.panel.faces.set entry.face (before.drawing face loop).scene.face
  loops : after.panel.loops = before.panel.loops.set number
    { loop with
      tick := (before.drawing face loop).next
      drew := !(before.drawing face loop).sent.isEmpty }
  sent : after.panel.sent = before.panel.sent ++ (before.drawing face loop).sent

section Ticks

variable {before after : Controller} {entry : Entry} {number : Nat} {loop : Loop} {face : Face}
  (ticks : Ticks before after context entry number loop face)
include ticks

theorem Ticks.pace_drawn :
    after.panel.paceOf number = some (loop.period, (before.drawing face loop).next) := by
  have bound := (List.getElem?_eq_some_iff.mp ticks.present).1
  rw [Panel.paceOf, ticks.loops, List.getElem?_set_self bound]
  rfl

theorem Ticks.pace_other {other : Nat} (differ : other ≠ number) :
    after.panel.paceOf other = before.panel.paceOf other := by
  rw [Panel.paceOf, ticks.loops, List.getElem?_set_ne differ.symm]
  rfl

theorem Ticks.button_drawn :
    after.buttonAt context =
      some ⟨(before.drawing face loop).scene.face, loop.period,
        (before.drawing face loop).next⟩ := by
  have registered : after.registry.find? context = some entry := by
    rw [ticks.registry]
    exact ticks.found
  have drawn : after.panel.faces[entry.face]? = some (before.drawing face loop).scene.face := by
    rw [ticks.faces]
    exact List.getElem?_set_self (List.getElem?_eq_some_iff.mp ticks.shown).1
  exact buttonAt_found registered drawn ticks.task ticks.pace_drawn

theorem Ticks.sentTo (other : String) :
    after.sentTo other =
      before.sentTo other ++ if context = other then (before.drawing face loop).sent else [] := by
  have calls := (Scene.draw_context ⟨face, before.media⟩ before.animation.target loop.tick).2
  unfold Controller.sentTo
  rw [ticks.sent, List.filter_append]
  congr 1
  exact filter_sent _ _ (ticks.whose ▸ calls) other

end Ticks

/-- The loop of a button that is on the deck draws the face of the button. -/
theorem Sound.ticks (sound : controller.Sound) {entry : Entry}
    (found : controller.registry.find? context = some entry) :
    ∃ number loop face,
      Ticks controller (controller.tickAt context) context entry number loop face := by
  obtain ⟨number, loop, face, staff⟩ := sound.staffed found
  have passed := Panel.pass_live controller.media controller.animation.target staff.present
    (staff.draws ▸ staff.shown) staff.live
  refine ⟨number, loop, face, ?_⟩
  simp only [tickAt, staff.installed, pass, passed]
  exact ⟨staff, rfl, rfl, rfl, congrArg (controller.panel.faces.set · _) staff.draws, rfl, rfl⟩

theorem Sound.aspect_tickAt (sound : controller.Sound) (context : String) :
    (controller.tickAt context).aspect context = (controller.aspect context).pass := by
  cases found : controller.registry.find? context with
  | none =>
      have absent : (controller.aspect context).button = none := buttonAt_absent found
      simp only [tickAt_absent found, Aspect.pass, absent]
  | some entry =>
      obtain ⟨number, loop, face, ticks⟩ := sound.ticks found
      have known : (controller.aspect context).button = some ⟨face, loop.period, loop.tick⟩ :=
        ticks.button
      simp only [Aspect.pass, known]
      apply Aspect.ext
      · exact ticks.animation
      · exact congrArg Sampler.unlogged ticks.sampler
      · exact ticks.button_drawn
      · have sent := ticks.sentTo context
        rw [if_pos rfl] at sent
        exact sent

theorem Sound.aspect_tickAt_other (sound : controller.Sound) {other : String}
    (differ : context ≠ other) : (controller.tickAt other).aspect context =
      controller.aspect context := by
  cases found : controller.registry.find? other with
  | none => rw [tickAt_absent found]
  | some entry =>
      obtain ⟨number, loop, face, ticks⟩ := sound.ticks found
      apply Aspect.ext
      · exact ticks.animation
      · exact congrArg Sampler.unlogged ticks.sampler
      · refine buttonAt_kept (congrArg (·.find? context) ticks.registry) ?_ ?_
        · intro kept known
          rw [ticks.faces]
          exact List.getElem?_set_ne (sound.entries.face_ne differ known found).symm
        · intro mine installed
          -- No loop is installed in two buttons.
          have apart : mine ≠ number := by
            intro same
            obtain ⟨kept, known, held⟩ := Option.bind_eq_some_iff.mp installed
            exact differ (Traffic.Sound.button_unique sound ⟨entry, found, ticks.task⟩
              ⟨kept, known, same ▸ held⟩)
          exact ticks.pace_other apart
      · have sent := ticks.sentTo context
        rw [if_neg differ.symm, List.append_nil] at sent
        exact sent

end Passes

theorem Sound.aspect_answer_own (sound : controller.Sound) (event : HostEvent)
    (concerned : event.owner? = some context ∨ event.owner? = none) :
    (controller.answer event).aspect context =
      (controller.aspect context).answer context event := by
  cases event with
  | willAppear owner settings =>
      obtain rfl : owner = context := by simpa [HostEvent.owner?] using concerned
      exact (sound.calm (calm_note _ _ _ _)).aspect_restart owner settings
  | didReceiveSettings owner settings =>
      obtain rfl : owner = context := by simpa [HostEvent.owner?] using concerned
      exact (sound.calm (calm_note _ _ _ _)).aspect_restart owner settings
  | willDisappear owner =>
      obtain rfl : owner = context := by simpa [HostEvent.owner?] using concerned
      exact aspect_disappear controller owner
  | titleParametersDidChange owner size =>
      obtain rfl : owner = context := by simpa [HostEvent.owner?] using concerned
      exact aspect_changeFont controller owner size
  | _ => rfl

theorem Sound.aspect_answer_other (sound : controller.Sound) {other : String}
    (differ : context ≠ other) (event : HostEvent) (owner : event.owner? = some other) :
    (controller.answer event).aspect context = controller.aspect context := by
  cases event with
  | willAppear _ settings =>
      cases owner
      exact (sound.calm (calm_note _ _ _ _)).aspect_restart_other differ settings
  | didReceiveSettings _ settings =>
      cases owner
      exact (sound.calm (calm_note _ _ _ _)).aspect_restart_other differ settings
  | willDisappear _ =>
      cases owner
      exact aspect_disappear_other differ
  | titleParametersDidChange _ size =>
      cases owner
      exact sound.aspect_changeFont_other differ size
  | _ => rfl

theorem Sound.aspect_answer (sound : controller.Sound) (context : String) (event : HostEvent) :
    (controller.answer event).aspect context =
      if event.owner?.all (· == context) then (controller.aspect context).answer context event
      else controller.aspect context := by
  cases owner : event.owner? with
  | none => exact sound.aspect_answer_own event (Or.inr owner)
  | some other =>
      by_cases own : other = context
      · rw [if_pos (by simpa using own)]
        exact sound.aspect_answer_own event (Or.inl (own ▸ owner))
      · rw [if_neg (by simpa using own)]
        exact sound.aspect_answer_other (Ne.symm own) event owner

/-- A turn does to the aspect of a button what the aspect says, and nothing if it is for another. -/
theorem Sound.aspect_turn (sound : controller.Sound) (context : String) (turn : Turn) :
    (controller.turn turn).aspect context =
      if turn.concerns context then (controller.aspect context).turn context turn
      else controller.aspect context := by
  cases turn with
  | event event => exact sound.aspect_answer context event
  | message raw =>
      cases read : HostEvent.read raw with
      | ok event =>
          simp only [Controller.turn, Turn.concerns, Turn.owner?, Aspect.turn, read]
          exact sound.aspect_answer context event
      | error fault =>
          simp only [Controller.turn, Turn.concerns, Turn.owner?, Aspect.turn, handleMessage, read]
          rfl
  | shutdown => exact aspect_shutdown controller context
  | tick other =>
      by_cases own : other = context
      · rw [if_pos (by simpa [Turn.concerns, Turn.owner?] using own), own]
        exact sound.aspect_tickAt context
      · rw [if_neg (by simpa [Turn.concerns, Turn.owner?] using own)]
        exact sound.aspect_tickAt_other (Ne.symm own)
  | source edit => exact Aspect.ext rfl (Sampler.unlogged_edit edit _).symm rfl rfl
  | notify token change =>
      exact sound.aspect_published (Sampler.agrees_notify _ token change) context
  | refresh => exact sound.aspect_published (Sampler.agrees_sample _) context

theorem Sound.animation_turn (sound : controller.Sound) (turn : Turn) :
    (controller.turn turn).animation = controller.animation := by
  have seen := congrArg Aspect.animation (sound.aspect_turn "" turn)
  split at seen
  · exact seen.trans (Aspect.animation_turn _ _ _)
  · exact seen

end Controller

end Marquee
