import Marquee.Proofs.Sampler.Ledger

/-!
Letting everything go while notices are being handled. Whatever was registered before the
registrations for sessions are taken out of the sampler is ended once all calls have returned. A
notice that is still being handled can register for sessions after that, and these registrations
stay in force.
-/

namespace Marquee

namespace Source

theorem next_revokeAll (source : Source) (numbers : List Nat) :
    (source.revokeAll numbers).next = source.next := by
  unfold revokeAll
  induction numbers generalizing source with
  | nil => rfl
  | cons number rest ih => exact (ih (source.revoke number)).trans (source.next_revoke number)

end Source

theorem Sampler.next_drop (sampler : Sampler) : sampler.drop.source.next = sampler.source.next :=
  (Source.next_revokeAll _ _).trans (Source.next_revokeAll _ _)

namespace Listener

variable {listener after : Listener} {errand next : Errand}

theorem Section.sessions (passed : listener.Section errand after next) :
    ∀ number ∈ after.sampler.sessions.flatMap Prod.snd,
      number ∈ listener.sampler.sessions.flatMap Prod.snd ∨
        listener.sampler.source.next ≤ number := by
  have kept : ∀ sessions : List (String × List Nat), sessions ⊆ listener.sampler.sessions →
      ∀ number ∈ sessions.flatMap Prod.snd,
        number ∈ listener.sampler.sessions.flatMap Prod.snd ∨
          listener.sampler.source.next ≤ number := by
    intro sessions within number member
    obtain ⟨entry, held, among⟩ := List.mem_flatMap.mp member
    exact Or.inl (List.mem_flatMap.mpr ⟨entry, within held, among⟩)
  cases passed with
  | unlisted =>
      rw [listener.sampler.sameHoldings_listSessions.sessions]
      exact kept _ (List.Subset.refl _)
  | listed =>
      rw [listener.sampler.sameHoldings_listSessions.sessions]
      exact kept _ (List.Subset.refl _)
  | parted sessions =>
      rw [(listener.sampler.sameHoldings_dropUnlisted sessions).sessions]
      exact kept _ (List.filter_subset_self _)
  | added session =>
      intro number member
      simp only [Sampler.note, List.flatMap_append, List.flatMap_cons, List.flatMap_nil,
        List.append_nil, List.mem_append, List.mem_range'_1] at member
      exact member.imp_right And.left
  | sampled stage =>
      rw [(listener.sampler.sameHoldings_sampleStep stage).sessions]
      exact kept _ (List.Subset.refl _)
  | emptied => exact fun _ none => absurd none List.not_mem_nil
  | _ => exact kept _ (List.Subset.refl _)

theorem Section.manager (passed : listener.Section errand after next)
    (none : listener.sampler.manager = []) (apart : errand.attaches = false) :
    after.sampler.manager = [] ∧ next.attaches = false := by
  by_cases stays : errand = .detaching
  · subst stays
    cases passed
    exact ⟨rfl, rfl⟩
  · obtain ⟨_, manager, other⟩ := passed.apart apart stays
    exact ⟨manager.trans none, other⟩

end Listener

namespace Listening

variable {listening : Listening}

def Move.attaches : Move → Bool
  | .begin .attach => true
  | _ => false

theorem attaches_begin {request : Request} (other : Move.attaches (.begin request) = false) :
    request.errand.attaches = false := by
  cases request with
  | attach => cases other
  | _ => rfl

def Apart (listening : Listening) : Prop :=
  ∀ errand ∈ listening.errands, errand.attaches = false

instance (listening : Listening) : Decidable listening.Apart :=
  inferInstanceAs (Decidable (∀ errand ∈ listening.errands, errand.attaches = false))

theorem Apart.begin (apart : listening.Apart) {request : Request}
    (other : Move.attaches (.begin request) = false) : (listening.begin request).Apart := by
  unfold Listening.begin
  split
  · intro errand member
    rcases List.mem_append.mp member with old | new
    · exact apart errand old
    · exact List.mem_singleton.mp new ▸ attaches_begin other
  · exact apart

theorem Apart.advance (apart : listening.Apart) (number : Nat) :
    (listening.advance number).Apart := by
  cases found : listening.errands[number]? with
  | none =>
      rw [advance_absent found]
      exact apart
  | some errand =>
      have own := apart errand (List.mem_of_getElem? found)
      rw [advance_found found]
      intro other member
      rcases List.mem_or_eq_of_mem_set member with old | new
      · exact apart other old
      · rw [new]
        by_cases stays : errand = .detaching
        · subst stays
          rfl
        · exact ((listening.listener.section_advance errand).apart own stays).2.2

theorem errands_drop (listening : Listening) : listening.drop.errands = listening.errands := by
  unfold Listening.drop
  split <;> rfl

theorem Apart.step (apart : listening.Apart) {move : Move} (other : move.attaches = false) :
    (listening.step move).Apart := by
  cases move with
  | begin request => exact apart.begin other
  | advance number => exact apart.advance number
  | source edit => exact apart
  | drop =>
      change listening.drop.Apart
      unfold Apart
      rw [errands_drop]
      exact apart

structure HeldSince (sampler : Sampler) (first : Nat) : Prop where
  manager : sampler.manager = []
  sessions : ∀ number ∈ sampler.sessions.flatMap Prod.snd, first ≤ number
  next : first ≤ sampler.source.next

theorem HeldSince.section {listener after : Listener} {errand next : Errand} {first : Nat}
    (since : HeldSince listener.sampler first) (passed : listener.Section errand after next)
    (apart : errand.attaches = false) : HeldSince after.sampler first := by
  refine ⟨(passed.manager since.manager apart).1, ?_, ?_⟩
  · intro number member
    rcases passed.sessions number member with old | new
    · exact since.sessions number old
    · exact Nat.le_trans since.next new
  · exact Nat.le_trans since.next passed.follows.next

structure Since (listening : Listening) (first : Nat) : Prop where
  apart : listening.Apart
  held : HeldSince listening.sampler first

theorem Since.step {first : Nat} (since : listening.Since first) {move : Move}
    (other : move.attaches = false) : (listening.step move).Since first := by
  refine ⟨since.apart.step other, ?_⟩
  cases move with
  | begin request =>
      change HeldSince (listening.begin request).sampler first
      rw [sampler_begin]
      exact since.held
  | advance number =>
      change HeldSince (listening.advance number).sampler first
      cases found : listening.errands[number]? with
      | none =>
          rw [advance_absent found]
          exact since.held
      | some errand =>
          rw [advance_found found]
          exact since.held.section (listening.listener.section_advance errand)
            (since.apart errand (List.mem_of_getElem? found))
  | source edit =>
      have same := listening.sampler.sameHoldings_edit edit
      refine ⟨same.manager.trans since.held.manager, ?_, ?_⟩
      · intro number member
        exact since.held.sessions number (same.sessions ▸ member)
      · exact Nat.le_trans since.held.next (Nat.le_of_eq same.source.next.symm)
  | drop =>
      change HeldSince listening.drop.sampler first
      unfold Listening.drop
      split
      · exact ⟨rfl, fun _ none => absurd none List.not_mem_nil,
          Nat.le_trans since.held.next (Nat.le_of_eq (Sampler.next_drop _).symm)⟩
      · exact since.held

theorem Since.run {first : Nat} (since : listening.Since first) (moves : List Move)
    (others : moves.all (!·.attaches) = true) : (listening.run moves).Since first := by
  induction moves generalizing listening with
  | nil => exact since
  | cons move rest ih =>
      simp only [List.all_cons, Bool.and_eq_true, Bool.not_eq_true'] at others
      exact ih (since.step others.1) (by simpa using others.2)

structure Leaving (listening : Listening) (number : Nat) : Prop where
  apart : listening.Apart
  own : listening.errands[number]? = some .detaching ∨
    (∃ manager, listening.errands[number]? = some (.emptying manager)) ∧
      listening.sampler.manager = []

structure Takes (listening : Listening) (number : Nat) : Prop where
  emptying : ∃ manager, listening.errands[number]? = some (.emptying manager)
  unlocked : listening.listener.locked = false

theorem Leaving.not_isQuiet {number : Nat} (leaving : listening.Leaving number) :
    listening.isQuiet = false := by
  rw [Bool.eq_false_iff]
  intro quiet
  have finished := List.all_eq_true.mp quiet
  rcases leaving.own with own | ⟨⟨manager, own⟩, _⟩
  · cases finished _ (List.mem_of_getElem? own)
  · cases finished _ (List.mem_of_getElem? own)

theorem Leaving.other {number place : Nat} (leaving : listening.Leaving number)
    (unlike : place ≠ number) : (listening.advance place).Leaving number := by
  refine ⟨leaving.apart.advance place, ?_⟩
  cases found : listening.errands[place]? with
  | none =>
      rw [advance_absent found]
      exact leaving.own
  | some errand =>
      have apart := leaving.apart errand (List.mem_of_getElem? found)
      rw [advance_found found]
      simp only [List.getElem?_set_ne unlike]
      exact leaving.own.imp_right (And.imp_right fun none =>
        ((listening.listener.section_advance errand).manager none apart).1)

theorem Leaving.advance {number : Nat} (leaving : listening.Leaving number) :
    (listening.advance number).Leaving number ∨
      listening.Takes number ∧ (listening.advance number).Since listening.source.next := by
  have apart := leaving.apart.advance number
  rcases leaving.own with own | ⟨⟨manager, own⟩, none⟩
  · left
    refine ⟨apart, Or.inr ⟨⟨_, getElem?_advance own⟩, ?_⟩⟩
    rw [advance_found own]
    rfl
  -- A notice that moves registrations holds the lock, and the call waits for it.
  · cases locked : listening.listener.locked with
    | true =>
        have waits : listening.listener.advance (.emptying manager) =
            (listening.listener, .emptying manager) := by
          simp only [Listener.advance, locked, if_true]
        left
        refine ⟨apart, Or.inr ⟨⟨manager, ?_⟩, ?_⟩⟩
        · rw [getElem?_advance own, waits]
        · rw [advance_found own, waits]
          exact none
    | false =>
        right
        refine ⟨⟨⟨manager, own⟩, locked⟩, apart, ?_⟩
        have taken : listening.listener.advance (.emptying manager) =
            ({ listening.listener with sampler := listening.sampler.takeSessions.1 },
              .revoking (manager ++ listening.sampler.takeSessions.2) .returning) := by
          simp only [Listener.advance, locked, Bool.false_eq_true, if_false]
          rfl
        rw [advance_found own, taken]
        exact ⟨none, fun _ absent => absurd absent List.not_mem_nil, Nat.le_refl _⟩

theorem Leaving.step {number : Nat} (leaving : listening.Leaving number) {move : Move}
    (other : move.attaches = false) :
    (listening.step move).Leaving number ∨ move = .advance number ∧
      listening.Takes number ∧ (listening.step move).Since listening.source.next := by
  have apart := leaving.apart.step other
  cases move with
  | begin request =>
      left
      refine ⟨apart, ?_⟩
      simp only [Listening.step, Listening.begin]
      split
      · rcases leaving.own with own | ⟨⟨manager, own⟩, none⟩
        · left
          exact (List.getElem?_append_left (List.getElem?_eq_some_iff.mp own).1).trans own
        · right
          refine ⟨⟨manager, ?_⟩, none⟩
          exact (List.getElem?_append_left (List.getElem?_eq_some_iff.mp own).1).trans own
      · exact leaving.own
  | advance place =>
      by_cases same : place = number
      · subst same
        exact leaving.advance.imp_right fun takes => ⟨rfl, takes⟩
      · exact Or.inl (leaving.other same)
  | source edit => exact Or.inl ⟨apart, leaving.own⟩
  | drop =>
      left
      have stays : listening.drop = listening := by
        simp only [Listening.drop, leaving.not_isQuiet, Bool.false_and, Bool.false_eq_true,
          if_false]
      change listening.drop.Leaving number
      rw [stays]
      exact leaving

/-- A call that lets everything go takes out what is held for sessions at some point of the run,
before it returns. -/
theorem Leaving.takes {number : Nat} (leaving : listening.Leaving number) (moves : List Move)
    (others : moves.all (!·.attaches) = true) (quiet : (listening.run moves).isQuiet = true) :
    ∃ early late, moves = early ++ .advance number :: late ∧
      (listening.run early).Takes number ∧
      (listening.run moves).Since (listening.run early).source.next := by
  induction moves generalizing listening with
  | nil =>
      have active := leaving.not_isQuiet
      change listening.isQuiet = true at quiet
      rw [active] at quiet
      cases quiet
  | cons move rest ih =>
      simp only [List.all_cons, Bool.and_eq_true, Bool.not_eq_true'] at others
      have later : rest.all (!·.attaches) = true := by simpa using others.2
      rcases leaving.step others.1 with still | ⟨same, takes, since⟩
      · obtain ⟨early, late, split, taken, since⟩ := ih still later quiet
        exact ⟨move :: early, late, by rw [split]; rfl, taken, since⟩
      · exact ⟨[], rest, by rw [same]; rfl, takes, since.run rest later⟩

theorem leaving_begin (apart : listening.Apart) (living : listening.sampler.alive = true) :
    (listening.begin .detach).Leaving listening.errands.length := by
  refine ⟨apart.begin rfl, Or.inl ?_⟩
  rw [begin_alive living]
  simp [Request.errand]

/-- When a sampler has let everything go while notices were being handled, and all calls have
returned, all that is in force was registered after the registrations for sessions were taken out.
Where nothing was, nothing is in force. -/
theorem live_after_detach (format : TitleFormat) (artwork : Nat) (decoder : Artwork.Decoder)
    (before after : List Move)
    (living : ((start format artwork decoder).run before).sampler.alive = true)
    (apart : ((start format artwork decoder).run before).Apart)
    (others : after.all (!·.attaches) = true)
    (quiet :
      ((((start format artwork decoder).run before).begin .detach).run after).isQuiet = true) :
    let number := ((start format artwork decoder).run before).errands.length
    let begun := ((start format artwork decoder).run before).begin .detach
    ∃ early late, after = early ++ .advance number :: late ∧
      (begun.run early).Takes number ∧
      (∀ registration ∈ (begun.run after).source.live,
        (begun.run early).source.next ≤ registration.number) ∧
      ((begun.run after).source.next = (begun.run early).source.next →
        (begun.run after).source.live = []) := by
  intro number begun
  have sound : (begun.run after).Sound :=
    (((sound_start format artwork decoder).run before).begin .detach).run after
  have kept := sound.kept_of_isQuiet quiet
  obtain ⟨early, late, split, takes, since⟩ :=
    (leaving_begin apart living).takes after others quiet
  -- With no call under way, what is in force is held, and what is held came after the taking.
  have fresh : ∀ registration ∈ (begun.run after).source.live,
      (begun.run early).source.next ≤ registration.number := by
    intro registration live
    have held := kept.owned.subset (List.mem_map_of_mem live)
    rw [List.append_nil, Sampler.held, List.mem_append] at held
    rcases held with manager | session
    · have none : (begun.run after).listener.sampler.manager = [] := since.held.manager
      rw [none] at manager
      exact absurd manager List.not_mem_nil
    · exact since.held.sessions registration.number session
  refine ⟨early, late, split, takes, fresh, ?_⟩
  intro same
  rw [List.eq_nil_iff_forall_not_mem]
  intro registration live
  have old := kept.issued.lt_next (List.mem_map_of_mem live)
  have new := fresh registration live
  rw [← same] at new
  exact Nat.not_lt.mpr new old

def noticing : List Move :=
  .source (.sessions [⟨"a", "Song", "", .paused⟩]) ::
    (.begin .attach :: List.replicate 13 (.advance 0)) ++
      [.source (.sessions [⟨"b", "Tune", "", .paused⟩]), .begin (.notice .sessions), .advance 1,
        .advance 1]

theorem live_after_detach_noticing :
    let begun := ((start .title 72 Artwork.decode?).run noticing).begin .detach
    let after : List Move := .advance 2 :: List.replicate 3 (.advance 1) ++
      List.replicate 6 (.advance 2) ++ List.replicate 8 (.advance 1)
    (∃ early late, after = early ++ .advance 2 :: late ∧ (begun.run early).Takes 2 ∧
      (∀ registration ∈ (begun.run after).source.live,
        (begun.run early).source.next ≤ registration.number) ∧
      ((begun.run after).source.next = (begun.run early).source.next →
        (begun.run after).source.live = [])) ∧
      (begun.run after).listener.ended = [0, 1, 4, 5, 2, 3] :=
  ⟨live_after_detach .title 72 Artwork.decode? noticing _ (by decide +kernel) (by decide +kernel)
    (by decide +kernel) (by decide +kernel), by decide +kernel⟩

/-- The notice goes on only when everything was let go, and registers for the session it has
listed. -/
theorem live_of_late_notice :
    ¬ ∀ before after : List Move,
      ((start .title 72 Artwork.decode?).run before).sampler.alive = true →
      ((start .title 72 Artwork.decode?).run before).Apart → after.all (!·.attaches) = true →
      ((((start .title 72 Artwork.decode?).run before).begin .detach).run after).isQuiet = true →
      ((((start .title 72 Artwork.decode?).run before).begin .detach).run after).source.live =
        [] := by
  intro final
  have none := final noticing (List.replicate 7 (.advance 2) ++ List.replicate 9 (.advance 1))
    (by decide +kernel) (by decide +kernel) (by decide +kernel) (by decide +kernel)
  revert none
  decide +kernel

end Listening

end Marquee
