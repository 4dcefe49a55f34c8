import Marquee.Config.Basic
import Marquee.Proofs.Sampler.Showing
import Marquee.Sampler.Notice

/-!
What the buttons show is what the last sample saw that could read the source. The statement is about
every sequence of things that happen to a sampler, where the source may change, and may answer or
fail, in any way before each of its samples.
-/

namespace Marquee.Sampler

def create (source : Source) (format : TitleFormat) (artwork : Nat) (decoder : Artwork.Decoder) :
    Sampler :=
  { source := source, format := format, edge := artworkEdge artwork, decoder := decoder }

/-- Something that happens to a sampler. What registers or moves registrations first may find the
source changed by the time it takes its sample. -/
inductive Occurrence where
  | source (edit : SourceEdit)
  | attach (registered synced : List SourceEdit)
  | detach
  | sync
  | change (change : MediaChange) (synced : List SourceEdit)
  | notify (token : String) (change : MediaChange) (synced : List SourceEdit)
  | sample

def edits (sampler : Sampler) (edits : List SourceEdit) : Sampler := edits.foldl edit sampler

def noticed (sampler : Sampler) (change : MediaChange) : Sampler :=
  let sampler := sampler.note .debug "media change notification" [("change", .text change.name)]
  if change = .sessions then sampler.sync else sampler

def samples (sampler : Sampler) : Occurrence → Bool
  | .attach _ _ => true
  | .change _ _ => true
  | .notify token _ _ => sampler.source.listens token
  | .sample => true
  | _ => false

def prepared (sampler : Sampler) : Occurrence → Sampler
  | .source edit => sampler.edit edit
  | .attach registered synced => (sampler.subscribeManager.edits registered).sync.edits synced
  | .detach => sampler.detach
  | .sync => sampler.sync
  | .change change synced => (sampler.noticed change).edits synced
  | .notify token change synced =>
    if sampler.source.listens token then (sampler.noticed change).edits synced else sampler
  | .sample => sampler

def occur (sampler : Sampler) (occurrence : Occurrence) : Sampler :=
  if sampler.samples occurrence then (sampler.prepared occurrence).sample.1
  else sampler.prepared occurrence

def run (sampler : Sampler) (occurrences : List Occurrence) : Sampler :=
  occurrences.foldl occur sampler

def samplings (sampler : Sampler) : List Occurrence → List Source
  | [] => []
  | occurrence :: rest =>
    (if sampler.samples occurrence then [(sampler.prepared occurrence).source] else []) ++
      (sampler.occur occurrence).samplings rest

theorem occur_attach (sampler : Sampler) : sampler.occur (.attach [] []) = sampler.attach.1 := rfl

theorem occur_change (sampler : Sampler) (change : MediaChange) :
    sampler.occur (.change change []) = (sampler.handleChange change).1 := by
  change (sampler.noticed change).sample.1 = _
  simp only [noticed, handleChange]
  split <;> rfl

theorem occur_notify {sampler : Sampler} (alive : sampler.alive = true) (token : String)
    (change : MediaChange) :
    sampler.occur (.notify token change []) = (sampler.notify token change).1 := by
  simp only [occur, samples, prepared, notify, deliver, alive, if_true]
  split
  · exact sampler.occur_change change
  · rfl

variable {sampler : Sampler}

theorem unsampled_edits (sampler : Sampler) (edits : List SourceEdit) :
    Unsampled sampler (sampler.edits edits) := by
  unfold Sampler.edits
  induction edits generalizing sampler with
  | nil => exact Unsampled.refl sampler
  | cons edit rest ih => exact (sampler.unsampled_edit edit).trans (ih (sampler.edit edit))

theorem steady_noticed (sampler : Sampler) (change : MediaChange) :
    Steady sampler (sampler.noticed change) := by
  have noted := sampler.steady_note .debug "media change notification"
    [("change", .text change.name)]
  unfold noticed
  split
  · exact noted.trans (steady_sync _)
  · exact noted

theorem unsampled_prepared (sampler : Sampler) (occurrence : Occurrence) :
    Unsampled sampler (sampler.prepared occurrence) := by
  cases occurrence with
  | source edit => exact sampler.unsampled_edit edit
  | attach registered synced =>
      have begun := sampler.steady_subscribeManager.toUnsampled.trans
        (unsampled_edits _ registered)
      exact begun.trans ((steady_sync _).toUnsampled.trans (unsampled_edits _ synced))
  | detach => exact sampler.steady_detach.toUnsampled
  | sync => exact sampler.steady_sync.toUnsampled
  | change change synced =>
      exact (sampler.steady_noticed change).toUnsampled.trans (unsampled_edits _ synced)
  | notify token change synced =>
      simp only [prepared]
      split
      · exact (sampler.steady_noticed change).toUnsampled.trans (unsampled_edits _ synced)
      · exact Unsampled.refl sampler
  | sample => exact Unsampled.refl sampler

theorem media_sample_eq (free : sampler.busy = false) :
    sampler.sample.1.media =
      if sampler.source.Fails then sampler.media else sampler.nowPlaying := by
  have media := (ends_sample free).media
  rw [Source.toOption_outcome] at media
  change (sampler.sampleSteps .waiting 7).1.media = _
  rw [media]
  split <;> rfl

theorem sample_snd_iff (free : sampler.busy = false) :
    sampler.sample.2 = true ↔
      ¬ sampler.source.Fails ∧ sampler.nowPlaying ≠ sampler.media := by
  have stage := (ends_sample free).stage
  rw [Source.toOption_outcome] at stage
  change ((sampler.sampleSteps .waiting 7).2 == .done true) = true ↔ _
  rw [stage]
  by_cases fails : sampler.source.Fails
  · simp [fails]
  · simp [fails, nowPlaying]

theorem published_sample (free : sampler.busy = false) :
    sampler.sample.1.published = sampler.published + if sampler.sample.2 then 1 else 0 := by
  have ends := ends_sample free
  change (sampler.sampleSteps .waiting 7).1.published =
    _ + if (sampler.sampleSteps .waiting 7).2 == .done true then 1 else 0
  rw [ends.published, ends.stage]
  simp

def seenAt (format : TitleFormat) (decoder : Artwork.Decoder) (edge : Nat) (shown : NowPlaying)
    (source : Source) : NowPlaying :=
  if source.Fails then shown else source.nowPlaying format decoder edge

/-- A sampler that is free keeps its settings, and its media change only by what a sample saw. -/
theorem occur_free (free : sampler.busy = false) (occurrence : Occurrence) :
    let after := sampler.occur occurrence
    after.busy = false ∧ SameSettings sampler after ∧
      after.media = (sampler.samplings [occurrence]).foldl
        (seenAt sampler.format sampler.decoder sampler.edge) sampler.media := by
  have prepared := sampler.unsampled_prepared occurrence
  have still : (sampler.prepared occurrence).busy = false := prepared.busy.trans free
  simp only [occur, samplings, List.append_nil]
  by_cases takes : sampler.samples occurrence = true
  · have ends := ends_sample still
    rw [if_pos takes, if_pos takes]
    refine ⟨ends.idle, prepared.toSameSettings.trans ends.settings, ?_⟩
    rw [media_sample_eq still, nowPlaying, prepared.format, prepared.decoder, prepared.edge,
      prepared.media]
    rfl
  · rw [if_neg takes, if_neg takes]
    exact ⟨still, prepared.toSameSettings, prepared.media⟩

theorem samplings_cons (sampler : Sampler) (occurrence : Occurrence) (rest : List Occurrence) :
    sampler.samplings (occurrence :: rest) =
      sampler.samplings [occurrence] ++ (sampler.occur occurrence).samplings rest := by
  simp [samplings]

theorem run_free (free : sampler.busy = false) (occurrences : List Occurrence) :
    let after := sampler.run occurrences
    after.busy = false ∧ SameSettings sampler after ∧
      after.media = (sampler.samplings occurrences).foldl
        (seenAt sampler.format sampler.decoder sampler.edge) sampler.media := by
  induction occurrences generalizing sampler with
  | nil => exact ⟨free, .refl _, rfl⟩
  | cons occurrence rest ih =>
      obtain ⟨idle, same, media⟩ := occur_free free occurrence
      obtain ⟨idleLast, sameLast, mediaLast⟩ := ih idle
      refine ⟨idleLast, same.trans sameLast, ?_⟩
      rw [samplings_cons, List.foldl_append, ← media, ← same.format, ← same.decoder, ← same.edge]
      exact mediaLast

/-- The samples that failed leave no trace, and of the others the last one counts. -/
theorem foldl_seenAt (format : TitleFormat) (decoder : Artwork.Decoder) (edge : Nat)
    (shown : NowPlaying) (sources : List Source) :
    sources.foldl (seenAt format decoder edge) shown =
      ((sources.filter fun source => ¬ source.Fails).getLast?.map
        fun source => source.nowPlaying format decoder edge).getD shown := by
  induction sources generalizing shown with
  | nil => rfl
  | cons source rest ih =>
      rw [List.foldl_cons, ih]
      by_cases fails : source.Fails
      · simp [seenAt, fails]
      · simp only [seenAt, fails, if_false, not_false_eq_true, decide_true, List.filter_cons_of_pos,
          List.getLast?_cons, Option.map_some, Option.getD_some]
        cases (rest.filter fun source => ¬ source.Fails).getLast? <;> rfl

/-- Whatever happens to a sampler, the buttons show what the source showed at the last sample whose
requests were all answered, and nothing before the first such sample. A further sample fails exactly
where one of the requests it makes does, and then changes nothing; otherwise the media become what
the source shows, and they are published exactly where that is something new. -/
theorem media_eq_lastSeen (source : Source) (format : TitleFormat) (artwork : Nat)
    (decoder : Artwork.Decoder) (occurrences : List Occurrence) :
    let start := create source format artwork decoder
    let sampler := start.run occurrences
    let answered := (start.samplings occurrences).filter fun source => ¬ source.Fails
    let edge := max 16 (min 288 artwork)
    (∀ last, answered.getLast? = some last →
      ∀ next, last.Shows format decoder edge next ↔ next = sampler.media) ∧
    (answered = [] → sampler.media = .silent) ∧
    (sampler.source.Fails → sampler.sample.2 = false ∧
      sampler.sample.1.media = sampler.media ∧
      sampler.sample.1.published = sampler.published) ∧
    (¬ sampler.source.Fails →
      (∀ next, sampler.source.Shows format decoder edge next ↔ next = sampler.sample.1.media) ∧
      (sampler.sample.2 = true ↔ sampler.sample.1.media ≠ sampler.media) ∧
      sampler.sample.1.published = sampler.published + if sampler.sample.2 then 1 else 0) ∧
    (∃ lines, sampler.sample.1.log = sampler.log ++ lines ∧
      ((∃ request, failureNote request ∈ lines) ↔ sampler.source.Fails)) ∧
    sampler.sample.1.source =
      { sampler.source with
        calls := sampler.source.calls ++ sampler.source.reads } := by
  intro start sampler answered edge
  have begun : start.busy = false := rfl
  obtain ⟨free, same, media⟩ := run_free begun occurrences
  have ends := ends_sample free
  have told := sample_snd_iff free
  have sampled := media_sample_eq free
  have now : (start.run occurrences).nowPlaying =
      sampler.source.nowPlaying format decoder (artworkEdge artwork) := by
    rw [nowPlaying, same.format, same.decoder, same.edge]
    rfl
  have seen : sampler.media = (answered.getLast?.map
      fun source => source.nowPlaying format decoder (artworkEdge artwork)).getD .silent := by
    rw [← foldl_seenAt]
    exact media
  rw [now] at told sampled
  refine ⟨?_, ?_, ?_, ?_, ?_, ends.source⟩
  · intro last found next
    rw [seen, found, Source.shows_configured]
    rfl
  · intro none
    rw [seen, none]
    rfl
  · intro fails
    have silent : sampler.sample.2 = false := by
      rw [Bool.eq_false_iff]
      exact fun published => (told.mp published).1 fails
    refine ⟨silent, sampled.trans (if_pos fails), ?_⟩
    have published := published_sample free
    rw [silent] at published
    exact published
  · intro works
    have shown := sampled.trans (if_neg works)
    refine ⟨fun next => ?_, ?_, published_sample free⟩
    · rw [shown, Source.shows_configured]
    · rw [shown, told]
      exact and_iff_right works
  · obtain ⟨lines, log, failed⟩ := ends.log
    rw [Source.isOk_outcome] at failed
    exact ⟨lines, log, failed⟩

/-- A song is sampled, and when it has ended the source does not answer. -/
def songEnds : List Occurrence :=
  [.source (.current (some ⟨"a", "Song", "Singer", .playing⟩)), .sample,
    .source (.current none), .source (.failing [.current]), .sample]

theorem media_eq_lastSeen_song :
    let start := create {} .artistTitle 72 Artwork.decode?
    let last : Source := { current := some ⟨"a", "Song", "Singer", .playing⟩ }
    ((start.samplings songEnds).filter fun source => ¬ source.Fails).getLast? = some last ∧
      last.Shows .artistTitle Artwork.decode? 72 (start.run songEnds).media ∧
      (start.run songEnds).media = ⟨"Singer - Song", ""⟩ := by
  intro start last
  have seen : ((start.samplings songEnds).filter fun source => ¬ source.Fails).getLast? =
      some last := rfl
  have shows := (media_eq_lastSeen {} .artistTitle 72 Artwork.decode? songEnds).1 last seen
  exact ⟨seen, (shows _).mpr rfl, by decide +kernel⟩

end Marquee.Sampler
