import Marquee.Proofs.Sampler.Steady

/-!
What a sample makes of the source. What the source plays at one moment is described here without a
sample: which session counts, what the buttons are to show of it, which of the requests for that
fails first, and which requests are made. A sample that nobody holds up does exactly that.
-/

namespace Marquee

def Session.isTitled (session : Session) : Bool := session.title != ""

def Session.heading (session : Session) (format : TitleFormat) : String :=
  if format = .artistTitle ∧ session.artist ≠ "" ∧ session.isTitled = true then
    session.artist ++ " - " ++ session.title
  else
    session.title

theorem TitleFormat.render_eq (format : TitleFormat) (session : Session) :
    format.render session = session.heading format := by
  cases format with
  | title => rfl
  | artistTitle =>
      simp only [render, Session.heading, Session.isTitled, Bool.or_eq_true, true_and,
        String.isEmpty_iff, bne_iff_ne]
      by_cases short : session.artist = "" ∨ session.title = ""
      · rw [if_pos short, if_neg fun known => short.elim known.1 known.2]
      · rw [if_neg short, if_pos (not_or.mp short)]

theorem Session.isEmpty_heading (session : Session) (format : TitleFormat) :
    (session.heading format).isEmpty = !session.isTitled := by
  unfold heading
  split
  · next known =>
    simp [known.2.2, String.isEmpty_eq_false_iff]
  · rw [Bool.eq_iff_iff]
    simp [isTitled, String.isEmpty_iff]

namespace Artwork

def shown (decoder : Decoder) (edge : Nat) (bytes : ByteArray) : String :=
  match decoder bytes with
  | none => ""
  | some picture => if edge = 0 then "" else dataUrl (picture.scale edge edge).raster

theorem getD_encodeBy (decoder : Decoder) (bytes : ByteArray) (edge : Nat) :
    (encodeBy decoder bytes edge).toOption.getD "" = shown decoder edge bytes := by
  unfold encodeBy squareBy shown
  cases decoder bytes with
  | none => rfl
  | some picture => by_cases none : edge = 0 <;> simp only [none, if_true, if_false] <;> rfl

end Artwork

namespace Source

def foreground? (source : Source) : Option Session := source.current.filter (·.status.isPlaying)

def playing? (source : Source) : Option Session :=
  source.foreground?.or (source.sessions.find? (·.status.isPlaying))

def titled? (source : Source) : Option Session := source.playing?.filter Session.isTitled

def artwork (source : Source) (decoder : Artwork.Decoder) (edge : Nat) (id : String) : String :=
  ((source.thumbnails.lookup id).map (Artwork.shown decoder edge)).getD ""

def nowPlaying (source : Source) (format : TitleFormat) (decoder : Artwork.Decoder) (edge : Nat) :
    NowPlaying :=
  match source.titled? with
  | none => .silent
  | some session => ⟨session.heading format, source.artwork decoder edge session.id⟩

/-- One of the requests for what the source plays fails. The sessions are asked for only where none
in the foreground plays, and a thumbnail only for a session that has a title. -/
def Fails (source : Source) : Prop :=
  .current ∈ source.failing ∨ (source.foreground? = none ∧ .sessions ∈ source.failing) ∨
    (source.titled?.isSome = true ∧ .thumbnail ∈ source.failing)

instance (source : Source) : Decidable source.Fails := by
  unfold Fails
  infer_instance

def thumbnailReads (source : Source) : List SourceCall :=
  (source.titled?.map fun session => .thumbnail session.id).toList

def listingReads (source : Source) : List SourceCall :=
  if source.foreground? = none then
    .sessions :: if .sessions ∈ source.failing then [] else source.thumbnailReads
  else
    source.thumbnailReads

def reads (source : Source) : List SourceCall :=
  .current :: if .current ∈ source.failing then [] else source.listingReads

def titledOutcome (source : Source) (format : TitleFormat) (decoder : Artwork.Decoder)
    (edge : Nat) : Except SourceRequest NowPlaying :=
  if source.titled?.isSome = true ∧ .thumbnail ∈ source.failing then
    .error .thumbnail
  else
    .ok (source.nowPlaying format decoder edge)

def outcome (source : Source) (format : TitleFormat) (decoder : Artwork.Decoder) (edge : Nat) :
    Except SourceRequest NowPlaying :=
  if .current ∈ source.failing then
    .error .current
  else if source.foreground? = none ∧ .sessions ∈ source.failing then
    .error .sessions
  else
    source.titledOutcome format decoder edge

theorem toOption_outcome (source : Source) (format : TitleFormat) (decoder : Artwork.Decoder)
    (edge : Nat) :
    (source.outcome format decoder edge).toOption =
      if source.Fails then none else some (source.nowPlaying format decoder edge) := by
  unfold outcome titledOutcome Fails
  split
  · simp [Except.toOption, *]
  · split
    · simp [Except.toOption, *]
    · split <;> simp_all [Except.toOption]

theorem isOk_outcome (source : Source) (format : TitleFormat) (decoder : Artwork.Decoder)
    (edge : Nat) : (source.outcome format decoder edge).isOk = false ↔ source.Fails := by
  have known := source.toOption_outcome format decoder edge
  cases result : source.outcome format decoder edge with
  | error request =>
      rw [result] at known
      by_cases fails : source.Fails
      · simp [Except.isOk, Except.toBool, fails]
      · simp [Except.toOption, fails] at known
  | ok next =>
      rw [result] at known
      by_cases fails : source.Fails
      · simp [Except.toOption, fails] at known
      · simp [Except.isOk, Except.toBool, fails]

end Source

namespace Sampler

def nowPlaying (sampler : Sampler) : NowPlaying :=
  sampler.source.nowPlaying sampler.format sampler.decoder sampler.edge

def ask (sampler : Sampler) (call : SourceCall) : Sampler :=
  { sampler with source := sampler.source.note call }

def failureNote (request : SourceRequest) : Log.Event :=
  Log.event .warn logTarget "media sample failed" [("error", .text request.failure)]

theorem choose_eq (sampler : Sampler) (session : Option Session) :
    sampler.choose session =
      match session.filter Session.isTitled with
      | none => .found .silent
      | some session => .picturing session := by
  cases session with
  | none => rfl
  | some session =>
      simp only [choose, Option.filter_some, TitleFormat.render_eq, Session.isEmpty_heading]
      cases session.isTitled <;> rfl

variable {sampler : Sampler}

theorem readForeground_fails (fails : .current ∈ sampler.source.failing) :
    sampler.readForeground =
      (sampler.ask .current).abandon .current := by
  simp only [readForeground, Source.readCurrent, Source.answer, fails, if_true]
  rfl

theorem readForeground_found {session : Session} (works : .current ∉ sampler.source.failing)
    (found : sampler.source.foreground? = some session) :
    sampler.readForeground =
      (sampler.ask .current, (sampler.ask .current).choose (some session)) := by
  obtain ⟨current, plays⟩ := Option.filter_eq_some_iff.mp found
  simp only [readForeground, Source.readCurrent, Source.answer, works, if_false, current, plays,
    if_true]
  rfl

theorem readForeground_none (works : .current ∉ sampler.source.failing)
    (absent : sampler.source.foreground? = none) :
    sampler.readForeground =
      (sampler.ask .current, .listing) := by
  simp only [readForeground, Source.readCurrent, Source.answer, works, if_false]
  cases current : sampler.source.current with
  | none => rfl
  | some session =>
      have rests : session.status.isPlaying = false := by
        simpa [Source.foreground?, current] using absent
      simp only [rests, Bool.false_eq_true, if_false]
      rfl

theorem readListed_fails (fails : .sessions ∈ sampler.source.failing) :
    sampler.readListed =
      (sampler.ask .sessions).abandon .sessions := by
  simp only [readListed, Source.readSessions, Source.answer, fails, if_true]
  rfl

theorem readListed_works (works : .sessions ∉ sampler.source.failing) :
    sampler.readListed =
      (sampler.ask .sessions,
        (sampler.ask .sessions).choose (sampler.source.sessions.find? (·.status.isPlaying))) := by
  simp only [readListed, Source.readSessions, Source.answer, works, if_false]
  rfl

theorem readPicture_fails (session : Session) (fails : .thumbnail ∈ sampler.source.failing) :
    sampler.readPicture session =
      (sampler.ask (.thumbnail session.id)).abandon .thumbnail := by
  simp only [readPicture, Source.readThumbnail, Source.answer, fails, if_true]
  rfl

/-- The thumbnail of a session gives its artwork; one that cannot be used is dropped with a line in
the log. -/
theorem readPicture_works (session : Session)
    (works : .thumbnail ∉ sampler.source.failing) :
    ∃ dropped, (∀ request, failureNote request ∉ dropped) ∧
      sampler.readPicture session =
        ({ sampler.ask (.thumbnail session.id) with log := sampler.log ++ dropped },
          .found ⟨session.heading sampler.format,
            sampler.source.artwork sampler.decoder sampler.edge session.id⟩) := by
  simp only [readPicture, Source.readThumbnail, Source.answer, works, if_false, Source.artwork,
    TitleFormat.render_eq]
  cases sampler.source.thumbnails.lookup session.id with
  | none => exact ⟨[], by simp, by simp [image, ask]⟩
  | some bytes =>
      simp only [image, Option.map_some, Option.getD_some, ← Artwork.getD_encodeBy]
      cases Artwork.encodeBy sampler.decoder bytes sampler.edge with
      | ok image => exact ⟨[], by simp, by simp [Except.toOption, ask]⟩
      | error fault =>
          refine ⟨[Log.event .warn logTarget "artwork dropped"
            [("session", .text session.id), ("error", .text fault.message)]], ?_, rfl⟩
          simp [failureNote, Log.event]

structure Ends (before : Sampler) (asked : List SourceCall)
    (outcome : Except SourceRequest NowPlaying) (after : Sampler × SampleStage) : Prop where
  source : after.1.source = { before.source with calls := before.source.calls ++ asked }
  media : after.1.media = outcome.toOption.getD before.media
  stage : after.2 = .done (outcome.toOption.any (· != before.media))
  published : after.1.published =
    before.published + if outcome.toOption.any (· != before.media) then 1 else 0
  idle : after.1.busy = false
  settings : SameSettings before after.1
  held : after.1.manager = before.manager ∧ after.1.sessions = before.sessions ∧
    after.1.alive = before.alive
  log : ∃ lines, after.1.log = before.log ++ lines ∧
    ((∃ request, failureNote request ∈ lines) ↔ outcome.isOk = false)

theorem sampleSteps_done (sampler : Sampler) (published : Bool) (steps : Nat) :
    sampler.sampleSteps (.done published) steps = (sampler, .done published) := by
  induction steps with
  | zero => rfl
  | succ steps ih => exact ih

theorem ends_found (sampler : Sampler) (next : NowPlaying) (steps : Nat) :
    sampler.Ends [] (.ok next) (sampler.sampleSteps (.found next) (steps + 3)) := by
  by_cases same : sampler.media = next
  · have steady : sampler.sampleSteps (.found next) (steps + 3) =
        ({ sampler with media := next, busy := false }, .done false) := by
      simp only [sampleSteps, sampleStep, store, NowPlaying.replace, same, if_true,
        Bool.false_eq_true, if_false, sampleSteps_done]
    rw [steady]
    refine ⟨by simp, ?_, ?_, ?_, rfl, ⟨rfl, rfl, rfl⟩, ⟨rfl, rfl, rfl⟩, ⟨[], ?_, ?_⟩⟩ <;>
      simp [Except.toOption, Except.isOk, Except.toBool, same]
  · have changed : sampler.sampleSteps (.found next) (steps + 3) =
        ({ ({ sampler with media := next } : Sampler).publish.1 with busy := false },
          .done true) := by
      simp only [sampleSteps, sampleStep, store, NowPlaying.replace, same, if_true, if_false,
        publish, sampleSteps_done]
    have differs : (next != sampler.media) = true := bne_iff_ne.mpr (Ne.symm same)
    rw [changed]
    refine ⟨by simp [publish, note], ?_, ?_, ?_, rfl, ⟨rfl, rfl, rfl⟩, ⟨rfl, rfl, rfl⟩,
      ⟨[Log.event .debug logTarget "media state published" [("title", .text next.title)]], rfl,
        ?_⟩⟩ <;>
      simp [Except.toOption, Except.isOk, Except.toBool, differs, publish, note, failureNote,
        Log.event]

theorem ends_abandon (sampler : Sampler) (request : SourceRequest) (steps : Nat) :
    sampler.Ends [] (.error request)
      ((sampler.abandon request).1.sampleSteps (sampler.abandon request).2 (steps + 1)) := by
  have ended : (sampler.abandon request).1.sampleSteps (sampler.abandon request).2 (steps + 1) =
      ({ sampler with log := sampler.log ++ [failureNote request], busy := false },
        .done false) := by
    simp only [abandon, sampleSteps, sampleStep, sampleSteps_done]
    rfl
  rw [ended]
  refine ⟨by simp, rfl, rfl, rfl, rfl, ⟨rfl, rfl, rfl⟩, ⟨rfl, rfl, rfl⟩,
    ⟨[failureNote request], rfl, ?_⟩⟩
  simp only [List.mem_singleton, Except.isOk, Except.toBool, iff_true]
  exact ⟨request, rfl⟩

/-- A sample that has made one more request ends as it does from there on. -/
theorem Ends.asked {call : SourceCall} {asked : List SourceCall}
    {outcome : Except SourceRequest NowPlaying} {after : Sampler × SampleStage}
    {dropped : List Log.Event} (silent : ∀ request, failureNote request ∉ dropped)
    (ends : Ends { sampler.ask call with log := sampler.log ++ dropped } asked outcome after) :
    sampler.Ends (call :: asked) outcome after := by
  obtain ⟨source, media, stage, published, idle, settings, held, lines, log, failed⟩ := ends
  refine ⟨?_, media, stage, published, idle, ⟨settings.format, settings.edge, settings.decoder⟩,
    held, dropped ++ lines, ?_, ?_⟩
  · simp [source, ask, Source.note]
  · simp [log]
  · rw [← failed]
    simp [silent]

theorem Ends.asked_silently {call : SourceCall} {asked : List SourceCall}
    {outcome : Except SourceRequest NowPlaying} {after : Sampler × SampleStage}
    (ends : (sampler.ask call).Ends asked outcome after) :
    sampler.Ends (call :: asked) outcome after := by
  have silent : ∀ request, failureNote request ∉ ([] : List Log.Event) := by simp
  refine Ends.asked silent ?_
  rw [List.append_nil]
  exact ends

theorem ends_chosen {found : Option Session} (steps : Nat)
    (chosen : sampler.source.titled? = found.filter Session.isTitled) :
    sampler.Ends sampler.source.thumbnailReads
      (sampler.source.titledOutcome sampler.format sampler.decoder sampler.edge)
      (sampler.sampleSteps (sampler.choose found) (steps + 4)) := by
  rw [choose_eq, ← chosen]
  simp only [Source.thumbnailReads, Source.titledOutcome, Source.nowPlaying]
  cases titled : sampler.source.titled? with
  | none =>
      simp only [Option.isSome_none, Bool.false_eq_true, false_and, if_false]
      exact ends_found sampler .silent (steps + 1)
  | some session =>
      simp only [Option.isSome_some, true_and]
      change Ends _ _ _ ((sampler.readPicture session).1.sampleSteps
        (sampler.readPicture session).2 (steps + 3))
      by_cases fails : .thumbnail ∈ sampler.source.failing
      · rw [if_pos fails, readPicture_fails session fails]
        exact Ends.asked_silently (ends_abandon _ _ (steps + 2))
      · obtain ⟨dropped, silent, read⟩ := readPicture_works session fails
        rw [if_neg fails, read]
        exact Ends.asked silent (ends_found _ _ steps)

theorem ends_listing (sampler : Sampler) (steps : Nat)
    (absent : sampler.source.foreground? = none) :
    sampler.Ends sampler.source.listingReads
      (if .sessions ∈ sampler.source.failing then .error .sessions else
        sampler.source.titledOutcome sampler.format sampler.decoder sampler.edge)
      (sampler.sampleSteps .listing (steps + 5)) := by
  change Ends _ _ _ (sampler.readListed.1.sampleSteps sampler.readListed.2 (steps + 4))
  rw [Source.listingReads, if_pos absent]
  by_cases fails : .sessions ∈ sampler.source.failing
  · rw [if_pos fails, if_pos fails, readListed_fails fails]
    exact Ends.asked_silently (ends_abandon _ _ (steps + 3))
  · rw [if_neg fails, if_neg fails, readListed_works fails]
    have chosen : (sampler.ask .sessions).source.titled? =
        (sampler.source.sessions.find? (·.status.isPlaying)).filter Session.isTitled := by
      change (sampler.source.foreground?.or _).filter _ = _
      rw [absent, Option.none_or]
      rfl
    exact Ends.asked_silently (ends_chosen steps chosen)

theorem ends_entered (sampler : Sampler) (steps : Nat) :
    sampler.Ends sampler.source.reads
      (sampler.source.outcome sampler.format sampler.decoder sampler.edge)
      (sampler.sampleSteps .entered (steps + 6)) := by
  change Ends _ _ _ (sampler.readForeground.1.sampleSteps sampler.readForeground.2 (steps + 5))
  rw [Source.reads, Source.outcome]
  by_cases fails : .current ∈ sampler.source.failing
  · rw [if_pos fails, if_pos fails, readForeground_fails fails]
    exact Ends.asked_silently (ends_abandon _ _ (steps + 4))
  · rw [if_neg fails, if_neg fails]
    apply Ends.asked_silently
    cases found : sampler.source.foreground? with
    | none =>
        rw [readForeground_none fails found]
        simp only [true_and]
        exact ends_listing (sampler.ask .current) steps found
    | some session =>
        rw [readForeground_found fails found, Source.listingReads]
        simp only [found, reduceCtorEq, false_and, if_false]
        have chosen : (sampler.ask .current).source.titled? =
            (some session).filter Session.isTitled := by
          change (sampler.source.foreground?.or _).filter _ = _
          rw [found, Option.some_or]
        exact ends_chosen (steps + 1) chosen

/-- A sample that no other one holds up. -/
theorem ends_sample (free : sampler.busy = false) :
    sampler.Ends sampler.source.reads
      (sampler.source.outcome sampler.format sampler.decoder sampler.edge)
      (sampler.sampleSteps .waiting 7) := by
  have enters : sampler.sampleStep .waiting = ({ sampler with busy := true }, .entered) := by
    simp only [sampleStep, free, Bool.false_eq_true, if_false]
  change Ends _ _ _ ((sampler.sampleStep .waiting).1.sampleSteps
    (sampler.sampleStep .waiting).2 6)
  rw [enters]
  obtain ⟨source, media, stage, published, idle, settings, held, log⟩ :=
    ends_entered { sampler with busy := true } 0
  exact ⟨source, media, stage, published, idle,
    ⟨settings.format, settings.edge, settings.decoder⟩, held, log⟩

end Sampler

end Marquee
