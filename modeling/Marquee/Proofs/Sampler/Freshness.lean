import Marquee.Proofs.Sampler.Turns

/-!
No change of the source is lost. A call that asks for a sample after the last change reads the
source as it is then, however late it comes to read, and whatever slower samples bring along that
began to read before: these have left before it enters.
-/

namespace Marquee

namespace SampleStage

def request? : SampleStage → Option SourceRequest
  | entered => some .current
  | listing => some .sessions
  | picturing _ => some .thumbnail
  | _ => none

def Agrees (sampler : Sampler) : SampleStage → Prop
  | listing => sampler.source.foreground? = none
  | picturing session => sampler.source.titled? = some session
  | found next => next = sampler.nowPlaying
  | changed => sampler.media = sampler.nowPlaying
  | leaving _ => sampler.media = sampler.nowPlaying
  | _ => True

end SampleStage

namespace Sampler

variable {sampler : Sampler}

structure Leads (after : Sampler × SampleStage) : Prop where
  agrees : after.2.Agrees after.1
  shown : after.2.isInside = false → after.1.media = after.1.nowPlaying

theorem Leads.of_inside {after : Sampler × SampleStage} (agrees : after.2.Agrees after.1)
    (inside : after.2.isInside = true) : Leads after := by
  refine ⟨agrees, ?_⟩
  intro outside
  rw [inside] at outside
  cases outside

theorem leads_choose {found : Option Session} (call : SourceCall)
    (chosen : sampler.source.titled? = found.filter Session.isTitled) :
    Leads (sampler.ask call, (sampler.ask call).choose found) := by
  rw [choose_eq, ← chosen]
  cases titled : sampler.source.titled? with
  | none =>
      refine Leads.of_inside ?_ rfl
      change NowPlaying.silent = sampler.nowPlaying
      rw [Sampler.nowPlaying, Source.nowPlaying, titled]
  | some session => exact Leads.of_inside titled rfl

theorem leads_foreground (works : .current ∉ sampler.source.failing) :
    Leads sampler.readForeground := by
  cases found : sampler.source.foreground? with
  | none =>
      rw [readForeground_none works found]
      exact Leads.of_inside found rfl
  | some session =>
      rw [readForeground_found works found]
      apply leads_choose
      rw [Source.titled?, Source.playing?, found, Option.some_or]

theorem leads_listed (absent : sampler.source.foreground? = none)
    (works : .sessions ∉ sampler.source.failing) : Leads sampler.readListed := by
  rw [readListed_works works]
  apply leads_choose
  rw [Source.titled?, Source.playing?, absent, Option.none_or]

theorem leads_picture {session : Session}
    (titled : sampler.source.titled? = some session)
    (works : .thumbnail ∉ sampler.source.failing) : Leads (sampler.readPicture session) := by
  obtain ⟨dropped, _, read⟩ := readPicture_works session works
  rw [read]
  refine Leads.of_inside ?_ rfl
  change NowPlaying.mk _ _ = sampler.nowPlaying
  rw [Sampler.nowPlaying, Source.nowPlaying, titled]

theorem leads_store {next : NowPlaying} (agrees : next = sampler.nowPlaying) :
    Leads (sampler.store next) := by
  unfold store NowPlaying.replace
  by_cases same : sampler.media = next
  · simp only [same, if_true, Bool.false_eq_true, if_false]
    exact Leads.of_inside agrees rfl
  · simp only [same, if_false, if_true]
    exact Leads.of_inside agrees rfl

theorem leads_sampleStep {stage : SampleStage} (inside : stage.isInside = true)
    (agrees : stage.Agrees sampler)
    (works : ∀ request, stage.request? = some request → request ∉ sampler.source.failing) :
    Leads (sampler.sampleStep stage) := by
  cases stage with
  | waiting => cases inside
  | entered => exact leads_foreground (works _ rfl)
  | listing => exact leads_listed agrees (works _ rfl)
  | picturing session => exact leads_picture agrees (works _ rfl)
  | found next => exact leads_store agrees
  | changed => exact Leads.of_inside agrees rfl
  | leaving published => exact ⟨trivial, fun _ => agrees⟩
  | done published => cases inside

end Sampler

namespace Sequel

def owes : Sequel → Bool
  | returning => false
  | _ => true

end Sequel

namespace Errand

def request? : Errand → Option SourceRequest
  | sampling stage => stage.request?
  | _ => none

def Agrees (sampler : Sampler) : Errand → Prop
  | sampling stage => stage.Agrees sampler
  | _ => True

def owes : Errand → Bool
  | subscribing => true
  | installing _ => true
  | noticing _ => true
  | listing sequel => sequel.owes
  | updating _ sequel => sequel.owes
  | adding _ _ sequel => sequel.owes
  | revoking _ sequel => sequel.owes
  | sampling .waiting => true
  | sampling .entered => true
  | _ => false

theorem owes_sequel (sequel : Sequel) : sequel.errand.owes = sequel.owes := by
  cases sequel <;> rfl

theorem agrees_of_outside {errand : Errand} (outside : errand.isInside = false)
    (sampler : Sampler) : errand.Agrees sampler := by
  cases errand with
  | sampling stage =>
      cases stage with
      | waiting => trivial
      | done published => trivial
      | _ => cases outside
  | _ => trivial

theorem Agrees.same {errand : Errand} {before after : Sampler} (agrees : errand.Agrees before)
    (same : Sampler.SamePlay before after) (media : after.media = before.media) :
    errand.Agrees after := by
  cases errand with
  | sampling stage =>
      cases stage with
      | listing => exact same.source.foreground?.trans agrees
      | picturing session => exact same.source.titled?.trans agrees
      | found next => exact Eq.trans agrees same.nowPlaying.symm
      | changed => exact media.trans (Eq.trans agrees same.nowPlaying.symm)
      | leaving published => exact media.trans (Eq.trans agrees same.nowPlaying.symm)
      | _ => trivial
  | _ => trivial

theorem not_isReturned_of_owes {errand : Errand} (owes : errand.owes = true) :
    errand.isReturned = false := by
  cases errand with
  | sampling stage =>
      cases stage with
      | done published => cases owes
      | _ => rfl
  | returned => cases owes
  | _ => rfl

end Errand

namespace Listener

variable {listener after : Listener} {errand next : Errand}

theorem Section.owes (passed : listener.Section errand after next) (owes : errand.owes = true)
    (reads : errand ≠ .sampling .entered) : next.owes = true := by
  cases passed with
  | noticed change next goes =>
      rw [goes]
      split <;> rfl
  | unlisted sequel => exact (Errand.owes_sequel sequel).trans owes
  | revoked sequel => exact (Errand.owes_sequel sequel).trans owes
  | sampled stage =>
      cases stage with
      | waiting =>
          simp only [Sampler.sampleStep]
          split <;> rfl
      | entered => exact absurd rfl reads
      | _ => cases owes
  | detached => cases owes
  | delayed => cases owes
  | emptied => cases owes
  | stayed => cases owes
  | refused => rfl
  | granted => rfl
  | installed => rfl
  | _ => exact owes

theorem Section.agrees (passed : listener.Section errand after next)
    (outside : errand.isInside = false) (sampler : Sampler) : next.Agrees sampler := by
  by_cases samples : ∃ stage, errand = .sampling stage
  · obtain ⟨stage, same⟩ := samples
    subst same
    cases passed
    cases stage with
    | waiting =>
        simp only [Sampler.sampleStep]
        split <;> trivial
    | done published => trivial
    | _ => cases outside
  · exact Errand.agrees_of_outside
      (passed.outside fun stage same => samples ⟨stage, same⟩) sampler

end Listener

namespace Request

def samples : Request → Bool
  | detach => false
  | sync => false
  | _ => true

theorem owes_errand {request : Request} (samples : request.samples = true) :
    request.errand.owes = true := by
  cases request with
  | detach => cases samples
  | sync => cases samples
  | _ => rfl

end Request

namespace Listening

variable {listening : Listening}

def request? (listening : Listening) : Move → Option SourceRequest
  | .advance number => listening.errands[number]?.bind Errand.request?
  | _ => none

def answered (listening : Listening) : List Move → Bool
  | [] => true
  | move :: rest =>
    (listening.request? move).all (fun request => request ∉ listening.source.failing) &&
      (listening.step move).answered rest

/-- The media are what the source plays, or a sample that is going to make them so is inside. -/
structure Settled (listening : Listening) : Prop where
  agrees : ∀ errand ∈ listening.errands, errand.Agrees listening.sampler
  shown : listening.sampler.busy = false →
    listening.sampler.media = listening.sampler.nowPlaying

def Owed (listening : Listening) : Prop := ∃ errand ∈ listening.errands, errand.owes = true

variable {number : Nat} {errand next : Errand} {after : Listener}

theorem settled_inside (guarded : listening.Guarded)
    (found : listening.errands[number]? = some errand) (inside : errand.isInside = true)
    (agrees : errand.Agrees listening.sampler)
    (works : ∀ request, errand.request? = some request → request ∉ listening.source.failing)
    (passed : listening.listener.Section errand after next) :
    (⟨after, listening.errands.set number next⟩ : Listening).Settled := by
  have others := guarded.others found inside
  have moved := guarded.section found passed
  cases passed with
  | sampled stage =>
      have leads := Sampler.leads_sampleStep inside agrees works
      have placed : (listening.errands.set number
          (.sampling (listening.sampler.sampleStep stage).2))[number]? =
            some (.sampling (listening.sampler.sampleStep stage).2) :=
        List.getElem?_set_self (List.getElem?_eq_some_iff.mp found).1
      constructor
      -- The others are outside and agree with anything.
      · intro other among
        have split := flatMap_perm_eraseIdx placed fun errand => [errand]
        simp only [List.flatMap_singleton', List.eraseIdx_set_eq] at split
        rcases List.mem_cons.mp (split.subset among) with own | apart
        · rw [own]
          exact leads.agrees
        · exact Errand.agrees_of_outside (others other apart) _
      · intro free
        apply leads.shown
        rw [Bool.eq_false_iff]
        intro still
        have busy := moved.held (List.mem_of_getElem? placed) still
        rw [free] at busy
        cases busy
  | _ => cases inside

theorem Settled.outside (settled : listening.Settled)
    (outside : errand.isInside = false)
    (passed : listening.listener.Section errand after next) :
    (⟨after, listening.errands.set number next⟩ : Listening).Settled := by
  have passes := passed.passes fun inside => by rw [outside] at inside; cases inside
  -- Only the call that is inside replaces the media, and this one is not.
  have media : after.sampler.media = listening.listener.sampler.media := by
    apply passes.media
    rintro next rfl
    cases outside
  constructor
  · intro other among
    rcases List.mem_or_eq_of_mem_set among with old | new
    · exact (settled.agrees other old).same passes.same media
    · rw [new]
      exact passed.agrees outside _
  · intro free
    have lock := passes.lock
    have busy : listening.sampler.busy = false := by
      change after.sampler.busy = false at free
      rw [outside, free] at lock
      rw [← Bool.toNat_eq_zero]
      change listening.listener.sampler.busy.toNat = 0
      simp only [Bool.toNat_false] at lock
      omega
    exact media.trans ((settled.shown busy).trans passes.same.nowPlaying.symm)

theorem works_of_found (found : listening.errands[number]? = some errand)
    (works : ∀ request, listening.request? (.advance number) = some request →
      request ∉ listening.source.failing) :
    ∀ request, errand.request? = some request → request ∉ listening.source.failing := by
  intro request same
  apply works
  simp only [request?, found, Option.bind_some, same]

theorem Settled.step (settled : listening.Settled) (guarded : listening.Guarded) (move : Move)
    (still : move.changes = false)
    (works : ∀ request, listening.request? move = some request →
      request ∉ listening.source.failing) : (listening.step move).Settled := by
  rcases listening.step_cases move with
    ⟨number, errand, after, next, advances, found, passed, same⟩ | aside
  · subst advances
    rw [same]
    by_cases inside : errand.isInside = true
    · exact settled_inside guarded found inside
        (settled.agrees errand (List.mem_of_getElem? found)) (works_of_found found works) passed
    · exact settled.outside (Bool.eq_false_iff.mpr inside) passed
  · have play := aside.play still
    constructor
    · intro errand member
      rcases aside.errands with kept | ⟨request, added⟩
      · rw [kept] at member
        exact (settled.agrees errand member).same play aside.media
      · rw [added] at member
        rcases List.mem_append.mp member with old | new
        · exact (settled.agrees errand old).same play aside.media
        · rw [List.mem_singleton.mp new]
          exact Errand.agrees_of_outside (isInside_errand request) _
    · intro free
      rw [aside.busy] at free
      exact aside.media.trans ((settled.shown free).trans play.nowPlaying.symm)

theorem Owed.step (owed : listening.Owed) (guarded : listening.Guarded) (move : Move)
    (works : ∀ request, listening.request? move = some request →
      request ∉ listening.source.failing) :
    (listening.step move).Owed ∨ (listening.step move).Settled := by
  obtain ⟨owing, among, owes⟩ := owed
  rcases listening.step_cases move with
    ⟨number, errand, after, next, advances, found, passed, same⟩ | aside
  · subst advances
    rw [same]
    by_cases reads : errand = .sampling .entered
    -- The call that owes comes to read. It is the only one inside, so that whatever former samples
    -- have read is in the media by now, and all that it reads itself is the source as it is.
    · right
      exact settled_inside guarded found (by rw [reads]; rfl) (by rw [reads]; trivial)
        (works_of_found found works) passed
    · left
      obtain ⟨place, present⟩ := List.mem_iff_getElem?.mp among
      by_cases here : number = place
      · subst here
        rw [found] at present
        cases present
        exact ⟨next, List.mem_set (List.getElem?_eq_some_iff.mp found).1 _,
          passed.owes owes reads⟩
      · refine ⟨owing, List.mem_of_getElem? (i := place) ?_, owes⟩
        rw [List.getElem?_set_ne here]
        exact present
  · left
    refine ⟨owing, ?_, owes⟩
    rcases aside.errands with kept | ⟨request, added⟩
    · rw [kept]
      exact among
    · rw [added]
      exact List.mem_append_left _ among

theorem works_of_answered {move : Move} {rest : List Move}
    (answered : listening.answered (move :: rest) = true) :
    ∀ request, listening.request? move = some request →
      request ∉ listening.source.failing := by
  intro request same
  rw [Listening.answered, same] at answered
  simpa using (Bool.and_eq_true_iff.mp answered).1

theorem settled_run (due : listening.Owed ∨ listening.Settled) (guarded : listening.Guarded)
    (moves : List Move) (still : moves.all (!·.changes) = true)
    (answered : listening.answered moves = true) :
    (listening.run moves).Owed ∨ (listening.run moves).Settled := by
  induction moves generalizing listening with
  | nil => exact due
  | cons move rest ih =>
      simp only [List.all_cons, Bool.and_eq_true, Bool.not_eq_true'] at still
      have works := works_of_answered answered
      have later : rest.all (!·.changes) = true := by simpa using still.2
      refine ih ?_ (guarded.step move) later (Bool.and_eq_true_iff.mp answered).2
      -- A settled state stays settled; an owed sample is owed further or settles the state.
      rcases due with owed | settled
      · exact owed.step guarded move works
      · exact Or.inr (settled.step guarded move still.1 works)

theorem shown_of_isQuiet (due : listening.Owed ∨ listening.Settled) (guarded : listening.Guarded)
    (quiet : listening.isQuiet = true) :
    listening.sampler.media = listening.sampler.nowPlaying := by
  have returned := List.all_eq_true.mp quiet
  rcases due with ⟨errand, member, owes⟩ | settled
  · have active := Errand.not_isReturned_of_owes owes
    rw [returned errand member] at active
    cases active
  · exact settled.shown (guarded.free quiet).1

theorem answered_append (listening : Listening) (early late : List Move) :
    listening.answered (early ++ late) =
      (listening.answered early && (listening.run early).answered late) := by
  induction early generalizing listening with
  | nil => rfl
  | cons move rest ih =>
      simp only [List.cons_append, answered, ih, Bool.and_assoc]
      rfl

theorem settings_step (guarded : listening.Guarded) (move : Move) :
    Sampler.SameSettings listening.sampler (listening.step move).sampler := by
  rcases listening.step_cases move with
    ⟨number, errand, after, next, _, found, passed, same⟩ | aside
  · have passes := passed.passes (guarded.held (List.mem_of_getElem? found))
    rw [same]
    exact passes.same.toSameSettings
  · exact aside.settings

theorem settings_run (guarded : listening.Guarded) (moves : List Move) :
    Sampler.SameSettings listening.sampler (listening.run moves).sampler := by
  induction moves generalizing listening with
  | nil => exact .refl _
  | cons move rest ih => exact (settings_step guarded move).trans (ih (guarded.step move))

structure Refreshed (listening : Listening) (moves : List Move) : Prop where
  still : moves.all (!·.changes) = true
  asked : ∃ early request late, moves = early ++ .begin request :: late ∧
    request.samples = true ∧ (listening.run early).sampler.alive = true
  answered : listening.answered moves = true

theorem owed_begin {request : Request} (samples : request.samples = true)
    (living : listening.sampler.alive = true) : (listening.begin request).Owed := by
  rw [begin_alive living]
  exact ⟨request.errand, List.mem_append_right _ List.mem_cons_self,
    Request.owes_errand samples⟩

theorem Refreshed.due {moves : List Move} (refreshed : listening.Refreshed moves)
    (guarded : listening.Guarded) :
    (listening.run moves).Owed ∨ (listening.run moves).Settled := by
  obtain ⟨early, request, late, same, samples, living⟩ := refreshed.asked
  have still := refreshed.still
  have answered := refreshed.answered
  subst same
  have split : listening.run (early ++ .begin request :: late) =
      ((listening.run early).begin request).run late := List.foldl_append
  rw [answered_append, Bool.and_eq_true] at answered
  rw [List.all_append, List.all_cons, Bool.and_eq_true, Bool.and_eq_true] at still
  rw [split]
  have begun : ((listening.run early).begin request).Guarded :=
    (guarded.run early).step (.begin request)
  exact settled_run (Or.inl (owed_begin samples living)) begun late still.2.2
    (Bool.and_eq_true_iff.mp answered.2).2

/-- At most one change of the media is outstanding, and none is when a sample is about to read or
no call is under way. -/
theorem published_eq_changes (format : TitleFormat) (artwork : Nat) (decoder : Artwork.Decoder)
    (moves : List Move) :
    let listening := (start format artwork decoder).run moves
    let changes := (start format artwork decoder).changes moves
    listening.sampler.published ≤ changes ∧ changes ≤ listening.sampler.published + 1 ∧
      (.sampling .entered ∈ listening.errands ∨ listening.isQuiet = true →
        listening.sampler.published = changes) := by
  intro listening changes
  have guarded : listening.Guarded := (guarded_start format artwork decoder).run moves
  have counted : listening.sampler.published + listening.errands.countP Errand.isChanged =
      0 + 0 + changes := published_run (guarded_start format artwork decoder) moves
  have single : listening.errands.countP Errand.isChanged ≤ 1 := by
    have within : listening.errands.countP Errand.isChanged ≤
        listening.errands.countP Errand.isInside :=
      List.countP_mono_left fun errand _ => errand.isChanged_le
    rw [guarded.samples] at within
    exact Nat.le_trans within (Bool.toNat_le _)
  refine ⟨by omega, by omega, ?_⟩
  rintro (enters | quiet)
  · rw [guarded.calm enters] at counted
    omega
  · have none : listening.errands.countP Errand.isChanged = 0 := by
      rw [List.countP_eq_zero]
      intro errand member changed
      have outside := (outside_of_isReturned (List.all_eq_true.mp quiet errand member)).1
      rw [errand.isChanged_le changed] at outside
      cases outside
    omega

/-- However calls and changes of the source come in between each other: if a call that takes a
sample begins after the last change, and none of the requests of samples fails from then on, the
media are what the source shows once all calls have returned. Every change of the media is published
before the next sample reads anything. -/
theorem media_eq_nowPlaying (format : TitleFormat) (artwork : Nat) (decoder : Artwork.Decoder)
    (before after : List Move) :
    let begun := (start format artwork decoder).run before
    let last := begun.run after
    (begun.Refreshed after → last.isQuiet = true →
      ∀ next, last.source.Shows format decoder (max 16 (min 288 artwork)) next ↔
        next = last.sampler.media) ∧
    ∀ moves, moves <+: before ++ after →
      let listening := (start format artwork decoder).run moves
      let changes := (start format artwork decoder).changes moves
      listening.sampler.published ≤ changes ∧ changes ≤ listening.sampler.published + 1 ∧
        (.sampling .entered ∈ listening.errands ∨ listening.isQuiet = true →
          listening.sampler.published = changes) := by
  intro begun last
  constructor
  · intro refreshed quiet next
    have guarded : begun.Guarded := (guarded_start format artwork decoder).run before
    have first := settings_run (guarded_start format artwork decoder) before
    have same := first.trans (settings_run guarded after)
    have shown := shown_of_isQuiet (refreshed.due guarded) (guarded.run after) quiet
    rw [shown, Sampler.nowPlaying, same.format, same.decoder, same.edge]
    exact last.source.shows_configured format decoder artwork next
  · intro moves _
    exact published_eq_changes format artwork decoder moves

def outdated : List Move :=
  .source (.sessions [⟨"a", "Song", "", .playing⟩]) :: .begin .sample ::
    List.replicate 3 (.advance 0) ++ [.source (.sessions [⟨"b", "Tune", "", .playing⟩])]

def overtaken : List Move :=
  .begin (.notice .playbackInfo) :: List.replicate 2 (.advance 1) ++
    List.replicate 4 (.advance 0) ++ List.replicate 7 (.advance 1)

theorem media_overtaken :
    let begun := (start .title 72 Artwork.decode?).run outdated
    let last := begun.run overtaken
    begun.Refreshed overtaken ∧
      last.source.Shows .title Artwork.decode? 72 last.sampler.media ∧
      last.sampler.media = ⟨"Tune", ""⟩ ∧ last.sampler.published = 2 := by
  intro begun last
  have refreshed : begun.Refreshed overtaken :=
    ⟨by decide +kernel, ⟨[], .notice .playbackInfo, _, rfl, rfl, by decide +kernel⟩,
      by decide +kernel⟩
  have shows := (media_eq_nowPlaying .title 72 Artwork.decode? outdated overtaken).1 refreshed
    (by decide +kernel) last.sampler.media
  exact ⟨refreshed, shows.mpr rfl, by decide +kernel, by decide +kernel⟩

end Listening

end Marquee
