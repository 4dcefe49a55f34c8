import Marquee.Proofs.Sampler.Registrations
import Marquee.Proofs.Sampler.Sections

/-!
What one section of a call does to the registrations, and what holds of them in every state of a
sampler with calls under way.
-/

namespace Marquee

namespace Listener

variable {listener after : Listener} {errand next : Errand} {inHand : List Nat}

theorem Kept.dropUnlisted (kept : listener.Kept inHand) (sessions : List Session) :
    Kept { listener with
      sampler := (listener.sampler.dropUnlisted sessions).1, locked := true }
      ((listener.sampler.dropUnlisted sessions).2 ++ inHand) := by
  have parted := kept.part (fun entry => Sampler.isListed sessions entry.1) true
  exact parted.same (listener.sampler.sameHoldings_dropUnlisted sessions) rfl

theorem Kept.takeSessions (kept : listener.Kept inHand) :
    Kept { listener with sampler := listener.sampler.takeSessions.1 }
      (listener.sampler.takeSessions.2 ++ inHand) := by
  have parted := kept.part (fun _ => false) listener.locked
  simp only [List.filter_false, Bool.not_false, List.filter_true] at parted
  exact parted

theorem Kept.takeManager (kept : listener.Kept inHand) :
    Kept { listener with sampler := listener.sampler.takeManager.1, granted := [] }
      (listener.sampler.manager ++ inHand) := by
  have empty : listener.Kept ([] ++ inHand) := kept
  exact empty.install (Source.stamped_nil _ _) []

theorem Kept.takeAll (kept : listener.Kept inHand) :
    Kept { listener with
      sampler := listener.sampler.takeManager.1.takeSessions.1, granted := [] }
      (listener.sampler.held ++ inHand) := by
  refine kept.takeManager.takeSessions.perm ?_
  rw [List.perm_iff_count]
  intro number
  simp only [Sampler.held, Sampler.takeSessions, Sampler.takeManager, List.count_append]
  omega

theorem numbers_sequel (sequel : Sequel) : sequel.errand.numbers = [] := by
  cases sequel <;> rfl

def Fits (listener : Listener) (errand : Errand) : Prop :=
  ∀ numbers, errand = .installing numbers →
    listener.sampler.source.Stamped numbers Topic.ofManager

theorem fits_of_apart (listener : Listener) {errand : Errand} (apart : errand.attaches = false) :
    listener.Fits errand :=
  fun numbers same => absurd same (Errand.ne_installing apart numbers)

/-- A section of a call moves registrations between the source, the sampler and the hand of the
call, and loses none. -/
theorem Kept.section {others : List Nat} (kept : listener.Kept (errand.numbers ++ others))
    (fits : listener.Fits errand) (passed : listener.Section errand after next) :
    after.Kept (next.numbers ++ others) ∧ after.Fits next := by
  cases passed with
  | refused =>
      exact ⟨kept.same ((Sampler.sameHoldings_ask _ _).trans (Sampler.sameHoldings_note _ _ _ _))
        rfl, fits_of_apart _ rfl⟩
  | granted =>
      refine ⟨kept.grant .subscribeManager Topic.ofManager _, ?_⟩
      intro numbers same
      cases same
      exact Source.stamped_granted kept.issued _ Topic.ofManager
  | installed numbers =>
      exact ⟨kept.install (fits numbers rfl) listener.granted, fits_of_apart _ rfl⟩
  | noticed change next goes =>
      have noted : Kept { listener with
          sampler := listener.sampler.note .debug "media change notification"
            [("change", .text change.name)] } others :=
        kept.same (Sampler.sameHoldings_note _ _ _ _) rfl
      rw [goes]
      split <;> exact ⟨noted, fits_of_apart _ rfl⟩
  | unlisted sequel =>
      rw [numbers_sequel]
      exact ⟨kept.same listener.sampler.sameHoldings_listSessions rfl,
        fits_of_apart _ (Errand.attaches_sequel sequel)⟩
  | listed =>
      exact ⟨kept.same listener.sampler.sameHoldings_listSessions rfl, fits_of_apart _ rfl⟩
  | parted sessions => exact ⟨kept.dropUnlisted sessions, fits_of_apart _ rfl⟩
  | unlocked => exact ⟨kept.same (Sampler.SameHoldings.refl _) rfl, fits_of_apart _ rfl⟩
  | missed =>
      exact ⟨kept.same ((Sampler.sameHoldings_ask _ _).trans (Sampler.sameHoldings_note _ _ _ _))
        rfl, fits_of_apart _ rfl⟩
  | added session rest stale sequel absent =>
      have granted := kept.grant (.subscribe session.id) (Topic.ofSession session.id)
        listener.granted
      have held := granted.hold absent
        (Source.stamped_granted kept.issued _ (Topic.ofSession session.id))
      exact ⟨held.same (Sampler.sameHoldings_note _ _ _ _) rfl, fits_of_apart _ rfl⟩
  | revoked sequel =>
      rw [numbers_sequel]
      exact ⟨kept, fits_of_apart _ (Errand.attaches_sequel sequel)⟩
  | letGo => exact ⟨kept.letGo, fits_of_apart _ rfl⟩
  | sampled stage =>
      exact ⟨kept.same (listener.sampler.sameHoldings_sampleStep stage) rfl, fits_of_apart _ rfl⟩
  | detached => exact ⟨kept.takeManager, fits_of_apart _ rfl⟩
  | emptied manager =>
      refine ⟨kept.takeSessions.perm ?_, fits_of_apart _ rfl⟩
      rw [List.perm_iff_count]
      intro number
      simp only [Errand.numbers, List.count_append]
      omega
  | _ => exact ⟨kept, fits_of_apart _ rfl⟩

theorem Section.follows (passed : listener.Section errand after next) :
    Source.Follows listener.sampler.source after.sampler.source := by
  cases passed with
  | refused => exact Source.SameLedger.follows ⟨rfl, rfl, rfl⟩
  | granted => exact Source.follows_granted _ _ _
  | unlisted => exact listener.sampler.sameHoldings_listSessions.source.follows
  | listed => exact listener.sampler.sameHoldings_listSessions.source.follows
  | parted sessions =>
      exact (listener.sampler.sameHoldings_dropUnlisted sessions).source.follows
  | missed => exact Source.SameLedger.follows ⟨rfl, rfl, rfl⟩
  | added => exact Source.follows_granted _ _ _
  | letGo number => exact Source.follows_revoke _ number
  | sampled stage => exact (listener.sampler.sameHoldings_sampleStep stage).source.follows
  | _ => exact Source.Follows.refl _

end Listener

theorem flatMap_perm_eraseIdx {α β : Type} {items : List α} {place : Nat} {item : α}
    (found : items[place]? = some item) (parts : α → List β) :
    (items.flatMap parts).Perm (parts item ++ (items.eraseIdx place).flatMap parts) := by
  obtain ⟨bound, same⟩ := List.getElem?_eq_some_iff.mp found
  have apart := (List.getElem_cons_eraseIdx_perm bound).flatMap_right parts
  rw [same, List.flatMap_cons] at apart
  exact apart.symm

namespace Listening

variable {listening : Listening}

def inHand (listening : Listening) : List Nat := listening.errands.flatMap Errand.numbers

theorem advance_absent {number : Nat} (absent : listening.errands[number]? = none) :
    listening.advance number = listening := by
  simp only [advance, absent]

theorem advance_found {number : Nat} {errand : Errand}
    (found : listening.errands[number]? = some errand) :
    listening.advance number = ⟨(listening.listener.advance errand).1,
      listening.errands.set number (listening.listener.advance errand).2⟩ := by
  simp only [advance, found]

theorem getElem?_advance {number : Nat} {errand : Errand}
    (found : listening.errands[number]? = some errand) :
    (listening.advance number).errands[number]? =
      some (listening.listener.advance errand).2 := by
  rw [advance_found found]
  exact List.getElem?_set_self (List.getElem?_eq_some_iff.mp found).1

structure Sound (listening : Listening) : Prop where
  kept : listening.listener.Kept listening.inHand
  fits : ∀ errand ∈ listening.errands, listening.listener.Fits errand

theorem advance_returned {number : Nat} {errand : Errand}
    (found : listening.errands[number]? = some errand) (finished : errand.isReturned = true) :
    listening.advance number = listening := by
  have still : listening.listener.advance errand = (listening.listener, errand) := by
    cases errand with
    | returned => rfl
    | sampling stage =>
        cases stage with
        | done published => rfl
        | _ => cases finished
    | _ => cases finished
  obtain ⟨bound, same⟩ := List.getElem?_eq_some_iff.mp found
  rw [advance_found found, still, ← same, List.set_getElem_self]

theorem fits_errand (listener : Listener) (request : Request) : listener.Fits request.errand := by
  intro numbers same
  cases request <;> cases same

theorem numbers_errand (request : Request) : request.errand.numbers = [] := by
  cases request <;> rfl

theorem Sound.begin (sound : listening.Sound) (request : Request) :
    (listening.begin request).Sound := by
  unfold Listening.begin
  split
  · constructor
    · simp only [inHand, List.flatMap_append, List.flatMap_cons, List.flatMap_nil, numbers_errand,
        List.append_nil]
      exact sound.kept
    · intro errand member
      rcases List.mem_append.mp member with known | new
      · exact sound.fits errand known
      · rw [List.mem_singleton.mp new]
        exact fits_errand _ request
  · exact sound

theorem Sound.advance (sound : listening.Sound) (number : Nat) :
    (listening.advance number).Sound := by
  cases found : listening.errands[number]? with
  | none =>
      rw [advance_absent found]
      exact sound
  | some errand =>
      have placed := getElem?_advance found
      rw [advance_found found] at placed ⊢
      have member := List.mem_of_getElem? found
      have before := sound.kept.perm (flatMap_perm_eraseIdx found Errand.numbers)
      obtain ⟨kept, fits⟩ := before.section (sound.fits errand member)
        (listening.listener.section_advance errand)
      constructor
      · have after := flatMap_perm_eraseIdx placed Errand.numbers
        rw [List.eraseIdx_set_eq] at after
        exact kept.perm after.symm
      · intro other among
        rcases List.mem_or_eq_of_mem_set among with known | new
        · intro numbers same
          have inHand : ∀ number ∈ numbers,
              number < listening.listener.sampler.source.next := by
            intro number inside
            apply sound.kept.lt_next
            apply List.mem_append_right
            exact List.mem_flatMap.mpr ⟨other, known, by rw [same]; exact inside⟩
          exact (sound.fits other known numbers same).follows inHand
            (listening.listener.section_advance errand).follows
        · rw [new]
          exact fits

theorem Sound.edit (sound : listening.Sound) (edit : SourceEdit) : (listening.edit edit).Sound := by
  have same := listening.sampler.sameHoldings_edit edit
  constructor
  · exact sound.kept.same same rfl
  · intro errand member numbers equal registration live
    have unchanged : (listening.sampler.edit edit).source.live = listening.sampler.source.live :=
      same.source.live
    exact sound.fits errand member numbers equal registration (unchanged ▸ live)

theorem numbers_of_isReturned {errand : Errand} (finished : errand.isReturned = true) :
    errand.numbers = [] := by
  cases errand <;> first | rfl | cases finished

theorem inHand_of_isQuiet (quiet : listening.isQuiet = true) : listening.inHand = [] := by
  rw [inHand, List.flatMap_eq_nil_iff]
  intro errand member
  exact numbers_of_isReturned (List.all_eq_true.mp quiet errand member)

theorem Sound.drop (sound : listening.Sound) : listening.drop.Sound := by
  unfold Listening.drop
  split
  · rename_i ready
    have quiet := (Bool.and_eq_true_iff.mp ready).1
    have kept := sound.kept
    rw [inHand_of_isQuiet quiet] at kept
    have letGo := kept.takeAll.letGoAll
    have dropped : listening.sampler.drop =
        { listening.sampler.takeManager.1.takeSessions.1.revokeAll listening.sampler.held with
          alive := false } := by
      simp only [Sampler.drop, Sampler.detach, Sampler.revokeAll, Source.revokeAll, Sampler.held,
        List.foldl_append]
      rfl
    constructor
    · simp only [inHand, dropped]
      rw [← inHand, inHand_of_isQuiet quiet]
      exact ⟨letGo.issued, letGo.owned, letGo.noted, letGo.distinct, letGo.manager, letGo.sessions⟩
    · intro errand member numbers same
      have finished := List.all_eq_true.mp quiet errand member
      rw [same] at finished
      cases finished
  · exact sound

theorem Sound.step (sound : listening.Sound) (move : Move) : (listening.step move).Sound := by
  cases move with
  | begin request => exact sound.begin request
  | advance number => exact sound.advance number
  | source edit => exact sound.edit edit
  | drop => exact sound.drop

theorem Sound.run (sound : listening.Sound) (moves : List Move) : (listening.run moves).Sound := by
  induction moves generalizing listening with
  | nil => exact sound
  | cons move rest ih => exact ih (sound.step move)

theorem sound_start (format : TitleFormat) (artwork : Nat) (decoder : Artwork.Decoder) :
    (start format artwork decoder).Sound := by
  refine ⟨⟨List.Perm.refl _, List.Perm.refl _, rfl, List.nodup_nil, ?_, ?_⟩, ?_⟩
  · exact fun _ none => absurd none List.not_mem_nil
  · exact fun _ none => absurd none List.not_mem_nil
  · exact fun _ none => absurd none List.not_mem_nil

end Listening

end Marquee
