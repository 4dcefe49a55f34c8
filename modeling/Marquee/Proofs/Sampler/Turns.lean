import Marquee.Proofs.Sampler.Holdings
import Marquee.Proofs.Sampler.Reading

/-!
Calls take turns at the two locks. Of the calls under way, one at most moves registrations for
sessions, and one at most is inside its sample. The media change only there: a change is published
before that sample is left, so that no sample begins to read while one is outstanding. Once all calls
have returned, a further one that nobody comes between gets through.
-/

namespace Marquee

namespace Source

structure SamePlay (before after : Source) : Prop where
  current : after.current = before.current
  sessions : after.sessions = before.sessions
  thumbnails : after.thumbnails = before.thumbnails

variable {before after : Source}

theorem SamePlay.foreground? (same : SamePlay before after) :
    after.foreground? = before.foreground? := by
  simp only [Source.foreground?, same.current]

theorem SamePlay.titled? (same : SamePlay before after) : after.titled? = before.titled? := by
  simp only [Source.titled?, Source.playing?, same.foreground?, same.sessions]

theorem SamePlay.nowPlaying (same : SamePlay before after) (format : TitleFormat)
    (decoder : Artwork.Decoder) (edge : Nat) :
    after.nowPlaying format decoder edge = before.nowPlaying format decoder edge := by
  simp only [Source.nowPlaying, same.titled?, Source.artwork, same.thumbnails]

theorem Alike.samePlay (same : Alike before after) : SamePlay before after :=
  ⟨same.current, same.sessions, same.thumbnails⟩

end Source

namespace SampleStage

def isInside : SampleStage → Bool
  | waiting => false
  | done _ => false
  | _ => true

def isChanged : SampleStage → Bool
  | changed => true
  | _ => false

end SampleStage

namespace Sampler

structure SamePlay (before after : Sampler) : Prop extends SameSettings before after where
  source : Source.SamePlay before.source after.source

variable {before after : Sampler}

theorem SamePlay.refl (sampler : Sampler) : SamePlay sampler sampler := ⟨.refl _, rfl, rfl, rfl⟩

theorem SamePlay.nowPlaying (same : SamePlay before after) :
    after.nowPlaying = before.nowPlaying := by
  rw [Sampler.nowPlaying, same.format, same.decoder, same.edge, same.source.nowPlaying,
    Sampler.nowPlaying]

theorem Steady.samePlay (steady : Steady before after) : SamePlay before after :=
  ⟨steady.toSameSettings, steady.source.samePlay⟩

structure Looks (before : Sampler) (after : Sampler × SampleStage) : Prop where
  same : SamePlay before after.1
  busy : after.1.busy = before.busy
  media : after.1.media = before.media
  published : after.1.published = before.published
  inside : after.2.isInside = true
  calm : after.2.isChanged = false

variable (sampler : Sampler)

theorem looks_abandon (call : SourceCall) (request : SourceRequest) :
    Looks sampler ((sampler.ask call).abandon request) :=
  ⟨⟨⟨rfl, rfl, rfl⟩, rfl, rfl, rfl⟩, rfl, rfl, rfl, rfl, rfl⟩

theorem looks_choose (call : SourceCall) (session : Option Session) :
    Looks sampler (sampler.ask call, (sampler.ask call).choose session) := by
  have goes : ((sampler.ask call).choose session).isInside = true ∧
      ((sampler.ask call).choose session).isChanged = false := by
    rw [choose_eq]
    split <;> exact ⟨rfl, rfl⟩
  exact ⟨⟨⟨rfl, rfl, rfl⟩, rfl, rfl, rfl⟩, rfl, rfl, rfl, goes.1, goes.2⟩

theorem looks_foreground : Looks sampler sampler.readForeground := by
  by_cases fails : .current ∈ sampler.source.failing
  · rw [readForeground_fails fails]
    exact looks_abandon sampler _ _
  · cases found : sampler.source.foreground? with
    | none =>
        rw [readForeground_none fails found]
        exact ⟨⟨⟨rfl, rfl, rfl⟩, rfl, rfl, rfl⟩, rfl, rfl, rfl, rfl, rfl⟩
    | some session =>
        rw [readForeground_found fails found]
        exact looks_choose sampler _ _

theorem looks_listed : Looks sampler sampler.readListed := by
  by_cases fails : .sessions ∈ sampler.source.failing
  · rw [readListed_fails fails]
    exact looks_abandon sampler _ _
  · rw [readListed_works fails]
    exact looks_choose sampler _ _

theorem looks_picture (session : Session) : Looks sampler (sampler.readPicture session) := by
  by_cases fails : .thumbnail ∈ sampler.source.failing
  · rw [readPicture_fails session fails]
    exact looks_abandon sampler _ _
  · obtain ⟨dropped, _, read⟩ := readPicture_works session fails
    rw [read]
    exact ⟨⟨⟨rfl, rfl, rfl⟩, rfl, rfl, rfl⟩, rfl, rfl, rfl, rfl, rfl⟩

structure Passes (before : Sampler) (stage : SampleStage) (after : Sampler × SampleStage) :
    Prop where
  same : SamePlay before after.1
  media : (∀ next, stage ≠ .found next) → after.1.media = before.media
  lock : after.1.busy.toNat + stage.isInside.toNat = before.busy.toNat + after.2.isInside.toNat
  published : after.1.published + after.2.isChanged.toNat =
    before.published + stage.isChanged.toNat + if after.1.media = before.media then 0 else 1

theorem Looks.passes {stage : SampleStage} {after : Sampler × SampleStage}
    (looks : Looks before after) (inside : stage.isInside = true)
    (calm : stage.isChanged = false) : Passes before stage after := by
  refine ⟨looks.same, fun _ => looks.media, ?_, ?_⟩
  · rw [looks.busy, looks.inside, inside]
  · rw [looks.published, looks.calm, calm, looks.media, if_pos rfl]
    rfl

theorem passes_store (next : NowPlaying) :
    Passes sampler (.found next) (sampler.store next) := by
  unfold store NowPlaying.replace
  by_cases same : sampler.media = next
  · simp only [same, if_true, Bool.false_eq_true, if_false]
    exact ⟨⟨⟨rfl, rfl, rfl⟩, rfl, rfl, rfl⟩, fun _ => same.symm, rfl,
      by simp [same, SampleStage.isChanged]⟩
  · simp only [same, if_false, if_true]
    refine ⟨⟨⟨rfl, rfl, rfl⟩, rfl, rfl, rfl⟩, fun other => absurd rfl (other next), rfl, ?_⟩
    simp [SampleStage.isChanged, Ne.symm same]

theorem passes_sampleStep (stage : SampleStage)
    (held : stage.isInside = true → sampler.busy = true) :
    Passes sampler stage (sampler.sampleStep stage) := by
  cases stage with
  | waiting =>
      simp only [sampleStep]
      cases busy : sampler.busy with
      | true =>
          simp only [if_true]
          exact ⟨SamePlay.refl sampler, fun _ => rfl, by simp [busy], by simp⟩
      | false =>
          simp only [Bool.false_eq_true, if_false]
          exact ⟨⟨⟨rfl, rfl, rfl⟩, rfl, rfl, rfl⟩, fun _ => rfl,
            by simp [busy, SampleStage.isInside],
            by simp [SampleStage.isChanged]⟩
  | entered => exact (looks_foreground sampler).passes rfl rfl
  | listing => exact (looks_listed sampler).passes rfl rfl
  | picturing session => exact (looks_picture sampler session).passes rfl rfl
  | found next => exact passes_store sampler next
  | changed =>
      refine ⟨⟨⟨rfl, rfl, rfl⟩, rfl, rfl, rfl⟩, fun _ => rfl, rfl, ?_⟩
      simp [sampleStep, publish, note, SampleStage.isChanged]
  | leaving published =>
      refine ⟨⟨⟨rfl, rfl, rfl⟩, rfl, rfl, rfl⟩, fun _ => rfl, ?_,
        by simp [sampleStep, SampleStage.isChanged]⟩
      simp [sampleStep, held rfl, SampleStage.isInside]
  | done published => exact ⟨SamePlay.refl sampler, fun _ => rfl, rfl, by simp [sampleStep]⟩

end Sampler

namespace Errand

def isInside : Errand → Bool
  | sampling stage => stage.isInside
  | _ => false

def isChanged : Errand → Bool
  | sampling stage => stage.isChanged
  | _ => false

def isAdding : Errand → Bool
  | adding _ _ _ => true
  | _ => false

theorem isChanged_le (errand : Errand) : errand.isChanged = true → errand.isInside = true := by
  cases errand with
  | sampling stage => cases stage <;> simp [isChanged, isInside, SampleStage.isChanged,
      SampleStage.isInside]
  | _ => simp [isChanged]

end Errand

namespace Listener

variable {listener after : Listener} {errand next : Errand}

theorem Section.outside (passed : listener.Section errand after next)
    (other : ∀ stage, errand ≠ .sampling stage) : next.isInside = false := by
  have outside (sequel : Sequel) : sequel.errand.isInside = false := by cases sequel <;> rfl
  cases passed with
  | noticed change next goes =>
      rw [goes]
      split <;> rfl
  | unlisted sequel => exact outside sequel
  | revoked sequel => exact outside sequel
  | sampled stage => exact absurd rfl (other stage)
  | _ => rfl

structure Passes (listener : Listener) (errand : Errand) (after : Listener) (next : Errand) :
    Prop where
  same : Sampler.SamePlay listener.sampler after.sampler
  media : (∀ next, errand ≠ .sampling (.found next)) →
    after.sampler.media = listener.sampler.media
  lock : after.sampler.busy.toNat + errand.isInside.toNat =
    listener.sampler.busy.toNat + next.isInside.toNat
  published : after.sampler.published + next.isChanged.toNat =
    listener.sampler.published + errand.isChanged.toNat +
      if after.sampler.media = listener.sampler.media then 0 else 1

theorem Section.passes (passed : listener.Section errand after next)
    (held : errand.isInside = true → listener.sampler.busy = true) :
    listener.Passes errand after next := by
  by_cases samples : ∃ stage, errand = .sampling stage
  · obtain ⟨stage, same⟩ := samples
    subst same
    cases passed
    have passes := listener.sampler.passes_sampleStep stage held
    refine ⟨passes.same, ?_, passes.lock, passes.published⟩
    intro other
    exact passes.media fun next same => other next (congrArg Errand.sampling same)
  · have other : ∀ stage, errand ≠ .sampling stage := fun stage same => samples ⟨stage, same⟩
    have steady := passed.steady other
    have outside := passed.outside other
    have calm : next.isChanged = false := by
      rw [Bool.eq_false_iff]
      intro changed
      rw [Errand.isChanged_le _ changed] at outside
      cases outside
    have before : errand.isInside = false ∧ errand.isChanged = false := by
      cases errand with
      | sampling stage => exact absurd rfl (other stage)
      | _ => exact ⟨rfl, rfl⟩
    refine ⟨steady.samePlay, fun _ => steady.media, ?_, ?_⟩
    · rw [steady.busy, outside, before.1]
    · rw [steady.published, steady.media, calm, before.2, if_pos rfl]
      rfl

theorem Section.locked (passed : listener.Section errand after next)
    (held : errand.isAdding = true → listener.locked = true) :
    after.locked.toNat + errand.isAdding.toNat =
      listener.locked.toNat + next.isAdding.toNat := by
  have outside (sequel : Sequel) : sequel.errand.isAdding = false := by cases sequel <;> rfl
  cases passed with
  | noticed change next goes =>
      rw [goes]
      split <;> rfl
  | unlisted sequel =>
      rw [outside]
      rfl
  | revoked sequel =>
      rw [outside]
      rfl
  | parted sessions sequel unlocked =>
      rw [unlocked]
      rfl
  | unlocked =>
      rw [held rfl]
      rfl
  | _ => rfl

end Listener

theorem countP_eraseIdx {α : Type} {items : List α} {place : Nat} {item : α}
    (found : items[place]? = some item) (counts : α → Bool) :
    items.countP counts = (items.eraseIdx place).countP counts + (counts item).toNat := by
  obtain ⟨bound, same⟩ := List.getElem?_eq_some_iff.mp found
  have apart := (List.getElem_cons_eraseIdx_perm bound).countP_eq counts
  rw [same, List.countP_cons] at apart
  rw [← apart]
  cases counts item <;> rfl

section Locks

variable {α : Type} {items : List α} {kind : α → Bool} {lock : Bool}

theorem held_of_countP (counted : items.countP kind = lock.toNat) {item : α}
    (member : item ∈ items) (inside : kind item = true) : lock = true := by
  have some := List.countP_pos_iff.mpr ⟨item, member, inside⟩
  rw [counted] at some
  cases lock with
  | true => rfl
  | false => cases some

theorem free_of_countP (counted : items.countP kind = lock.toNat)
    (outside : ∀ item ∈ items, kind item = false) : lock = false := by
  have none : items.countP kind = 0 := by
    rw [List.countP_eq_zero]
    intro item member inside
    rw [outside item member] at inside
    cases inside
  rw [counted] at none
  cases lock with
  | true => cases none
  | false => rfl

end Locks

namespace Listening

variable {listening : Listening}

structure Guarded (listening : Listening) : Prop where
  samples : listening.errands.countP Errand.isInside = listening.sampler.busy.toNat
  sessions : listening.errands.countP Errand.isAdding = listening.listener.locked.toNat

theorem Guarded.held (guarded : listening.Guarded) {errand : Errand}
    (member : errand ∈ listening.errands) (inside : errand.isInside = true) :
    listening.sampler.busy = true := held_of_countP guarded.samples member inside

theorem Guarded.others (guarded : listening.Guarded) {number : Nat} {errand : Errand}
    (found : listening.errands[number]? = some errand) (inside : errand.isInside = true) :
    ∀ other ∈ listening.errands.eraseIdx number, other.isInside = false := by
  have split := countP_eraseIdx found Errand.isInside
  have busy := guarded.held (List.mem_of_getElem? found) inside
  rw [guarded.samples, busy, inside] at split
  have none : (listening.errands.eraseIdx number).countP Errand.isInside = 0 :=
    (Nat.add_right_cancel ((Nat.zero_add 1).trans split)).symm
  intro other member
  exact Bool.eq_false_iff.mpr (List.countP_eq_zero.mp none other member)

theorem isInside_errand (request : Request) : request.errand.isInside = false := by
  cases request <;> rfl

theorem isAdding_errand (request : Request) : request.errand.isAdding = false := by
  cases request <;> rfl

theorem isChanged_errand (request : Request) : request.errand.isChanged = false := by
  cases request <;> rfl

def Move.changes : Move → Bool
  | .source (.failing _) => false
  | .source _ => true
  | _ => false

/-- A move that is not a section of a call: samples stay where they are, as do the locks, and one
call more at most is under way, at its beginning. -/
structure Aside (before : Listening) (move : Move) (after : Listening) : Prop where
  media : after.sampler.media = before.sampler.media
  published : after.sampler.published = before.sampler.published
  busy : after.sampler.busy = before.sampler.busy
  locked : after.listener.locked = before.listener.locked
  settings : Sampler.SameSettings before.sampler after.sampler
  play : move.changes = false → Sampler.SamePlay before.sampler after.sampler
  errands : after.errands = before.errands ∨
    ∃ request : Request, after.errands = before.errands ++ [request.errand]

theorem Aside.refl (listening : Listening) (move : Move) : Aside listening move listening :=
  ⟨rfl, rfl, rfl, rfl, .refl _, fun _ => .refl _, Or.inl rfl⟩

theorem aside_begin (listening : Listening) (request : Request) :
    Aside listening (.begin request) (listening.begin request) := by
  unfold Listening.begin
  split
  · exact ⟨rfl, rfl, rfl, rfl, .refl _, fun _ => .refl _, Or.inr ⟨request, rfl⟩⟩
  · exact Aside.refl listening _

theorem aside_edit (listening : Listening) (edit : SourceEdit) :
    Aside listening (.source edit) (listening.edit edit) := by
  refine ⟨rfl, rfl, rfl, rfl, ⟨rfl, rfl, rfl⟩, ?_, Or.inl rfl⟩
  intro still
  cases edit with
  | failing requests => exact ⟨⟨rfl, rfl, rfl⟩, rfl, rfl, rfl⟩
  | _ => cases still

theorem aside_drop (listening : Listening) : Aside listening .drop listening.drop := by
  unfold Listening.drop
  split
  · refine ⟨rfl, rfl, rfl, rfl, ⟨rfl, rfl, rfl⟩, ?_, Or.inl rfl⟩
    intro _
    have same := listening.sampler.steady_detach.samePlay
    exact ⟨⟨same.format, same.edge, same.decoder⟩, same.source⟩
  · exact Aside.refl listening _

/-- A move is a section of one of the calls, or does nothing to samples. -/
theorem step_cases (listening : Listening) (move : Move) :
    (∃ number errand after next, move = .advance number ∧
      listening.errands[number]? = some errand ∧ listening.listener.Section errand after next ∧
      listening.step move = ⟨after, listening.errands.set number next⟩) ∨
    Aside listening move (listening.step move) := by
  cases move with
  | begin request => exact Or.inr (listening.aside_begin request)
  | source edit => exact Or.inr (listening.aside_edit edit)
  | drop => exact Or.inr listening.aside_drop
  | advance number =>
      cases found : listening.errands[number]? with
      | none =>
          right
          rw [show listening.step (.advance number) = listening from advance_absent found]
          exact Aside.refl listening _
      | some errand =>
          exact Or.inl ⟨number, errand, _, _, rfl, found,
            listening.listener.section_advance errand, advance_found found⟩

variable {number : Nat} {errand next : Errand} {after : Listener}

theorem Aside.countP {before after : Listening} {move : Move} (aside : Aside before move after)
    {counts : Errand → Bool} (none : ∀ request : Request, counts request.errand = false) :
    after.errands.countP counts = before.errands.countP counts := by
  rcases aside.errands with same | ⟨request, added⟩
  · rw [same]
  · rw [added, List.countP_append, List.countP_singleton, none request]
    simp

theorem countP_set (found : listening.errands[number]? = some errand) (next : Errand)
    (counts : Errand → Bool) :
    (listening.errands.set number next).countP counts + (counts errand).toNat =
      listening.errands.countP counts + (counts next).toNat := by
  have placed : (listening.errands.set number next)[number]? = some next :=
    List.getElem?_set_self (List.getElem?_eq_some_iff.mp found).1
  have before := countP_eraseIdx found counts
  have after := countP_eraseIdx placed counts
  rw [List.eraseIdx_set_eq] at after
  omega

theorem Guarded.section (guarded : listening.Guarded)
    (found : listening.errands[number]? = some errand)
    (passed : listening.listener.Section errand after next) :
    (⟨after, listening.errands.set number next⟩ : Listening).Guarded := by
  have member := List.mem_of_getElem? found
  -- A lock is taken or left by a section just where its call comes to hold it or to let it go.
  constructor
  · have passes := passed.passes (guarded.held member)
    have counted := countP_set found next Errand.isInside
    have lock := passes.lock
    change (listening.errands.set number next).countP Errand.isInside = after.sampler.busy.toNat
    rw [guarded.samples] at counted
    simp only [Listening.sampler] at counted
    omega
  · have lock := passed.locked (held_of_countP guarded.sessions member)
    have counted := countP_set found next Errand.isAdding
    change (listening.errands.set number next).countP Errand.isAdding = after.locked.toNat
    rw [guarded.sessions] at counted
    omega

theorem Guarded.step (guarded : listening.Guarded) (move : Move) :
    (listening.step move).Guarded := by
  rcases listening.step_cases move with
    ⟨number, errand, after, next, _, found, passed, same⟩ | aside
  · rw [same]
    exact guarded.section found passed
  · constructor
    · rw [aside.countP isInside_errand, aside.busy]
      exact guarded.samples
    · rw [aside.countP isAdding_errand, aside.locked]
      exact guarded.sessions

theorem Guarded.run (guarded : listening.Guarded) (moves : List Move) :
    (listening.run moves).Guarded := by
  induction moves generalizing listening with
  | nil => exact guarded
  | cons move rest ih => exact ih (guarded.step move)

def changes (listening : Listening) : List Move → Nat
  | [] => 0
  | move :: rest =>
    (if (listening.step move).sampler.media = listening.sampler.media then 0 else 1) +
      (listening.step move).changes rest

theorem published_step (guarded : listening.Guarded) (move : Move) :
    (listening.step move).sampler.published +
        (listening.step move).errands.countP Errand.isChanged =
      listening.sampler.published + listening.errands.countP Errand.isChanged +
        if (listening.step move).sampler.media = listening.sampler.media then 0 else 1 := by
  rcases listening.step_cases move with
    ⟨number, errand, after, next, _, found, passed, same⟩ | aside
  · have passes := passed.passes (guarded.held (List.mem_of_getElem? found))
    have counted := countP_set found next Errand.isChanged
    have published := passes.published
    rw [same]
    change after.sampler.published + (listening.errands.set number next).countP _ =
      listening.listener.sampler.published + _ +
        if after.sampler.media = listening.listener.sampler.media then 0 else 1
    omega
  · rw [aside.countP isChanged_errand, aside.media, aside.published, if_pos rfl]
    rfl

theorem published_run (guarded : listening.Guarded) (moves : List Move) :
    (listening.run moves).sampler.published +
        (listening.run moves).errands.countP Errand.isChanged =
      listening.sampler.published + listening.errands.countP Errand.isChanged +
        listening.changes moves := by
  induction moves generalizing listening with
  | nil => rfl
  | cons move rest ih =>
      have first := published_step guarded move
      have later := ih (guarded.step move)
      change ((listening.step move).run rest).sampler.published +
        ((listening.step move).run rest).errands.countP Errand.isChanged = _
      simp only [changes]
      omega

theorem Guarded.calm (guarded : listening.Guarded)
    (enters : .sampling .entered ∈ listening.errands) :
    listening.errands.countP Errand.isChanged = 0 := by
  obtain ⟨number, found⟩ := List.mem_iff_getElem?.mp enters
  have others := guarded.others found rfl
  rw [countP_eraseIdx found Errand.isChanged]
  have none : (listening.errands.eraseIdx number).countP Errand.isChanged = 0 := by
    rw [List.countP_eq_zero]
    intro errand member changed
    have inside := errand.isChanged_le changed
    rw [others errand member] at inside
    cases inside
  rw [none]
  rfl

theorem guarded_start (format : TitleFormat) (artwork : Nat) (decoder : Artwork.Decoder) :
    (start format artwork decoder).Guarded :=
  ⟨rfl, rfl⟩

theorem outside_of_isReturned {errand : Errand} (finished : errand.isReturned = true) :
    errand.isInside = false ∧ errand.isAdding = false := by
  cases errand with
  | sampling stage =>
      cases stage with
      | done published => exact ⟨rfl, rfl⟩
      | _ => cases finished
  | returned => exact ⟨rfl, rfl⟩
  | _ => cases finished

theorem Guarded.free (guarded : listening.Guarded) (quiet : listening.isQuiet = true) :
    listening.sampler.busy = false ∧ listening.listener.locked = false := by
  have returned := List.all_eq_true.mp quiet
  exact ⟨free_of_countP guarded.samples fun errand member =>
      (outside_of_isReturned (returned errand member)).1,
    free_of_countP guarded.sessions fun errand member =>
      (outside_of_isReturned (returned errand member)).2⟩

/-- Whatever calls there were, a call that comes once they have returned, and that nobody comes
between, returns and does what the sampler does when it is called at once. -/
theorem run_in_turn (format : TitleFormat) (artwork : Nat) (decoder : Artwork.Decoder)
    (moves : List Move) (quiet : ((start format artwork decoder).run moves).isQuiet = true)
    (living : ((start format artwork decoder).run moves).sampler.alive = true) (request : Request) :
    let listening := (start format artwork decoder).run moves
    ∃ count ended granted errand, errand.isReturned = true ∧
      errand.told = (request.whole listening.sampler).2 ∧
      listening.run (.begin request :: List.replicate count (.advance listening.errands.length)) =
        ⟨⟨(request.whole listening.sampler).1, false, ended, granted⟩,
          listening.errands ++ [errand]⟩ := by
  intro listening
  obtain ⟨free, unlocked⟩ := ((guarded_start format artwork decoder).run moves).free quiet
  exact listening.run_alone unlocked free living request

end Listening

end Marquee
