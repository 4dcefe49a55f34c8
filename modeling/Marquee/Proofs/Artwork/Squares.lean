import Marquee.Proofs.Sampler.Freshness

/-!
What a sampler shows is no image or a square of the configured edge, and the thumbnail of the
session that plays is shown wherever it can be decoded, however calls and changes of the source
come in between each other.
-/

namespace Marquee

namespace Source

theorem shown_artwork (source : Source) (decoder : Artwork.Decoder) {edge : Nat}
    (small : edge < 4294967296) (id : String) :
    Artwork.Shown edge (source.artwork decoder edge id) := by
  unfold artwork
  cases source.thumbnails.lookup id with
  | none => exact Or.inl rfl
  | some bytes =>
      simp only [Option.map_some, Option.getD_some, Artwork.shown]
      split
      · exact Or.inl rfl
      · split
        · exact Or.inl rfl
        · next some =>
          exact Or.inr (Artwork.isSquare_scale _ (Nat.one_le_iff_ne_zero.mpr some) small)

end Source

namespace SampleStage

def Finds (edge : Nat) : SampleStage → Prop
  | found next => Artwork.Shown edge next.image
  | _ => True

end SampleStage

namespace Sampler

variable {sampler : Sampler}

theorem finds_choose (sampler : Sampler) (session : Option Session) :
    (sampler.choose session).Finds sampler.edge := by
  rw [choose_eq]
  split
  · exact Or.inl rfl
  · trivial

theorem finds_foreground : sampler.readForeground.2.Finds sampler.edge := by
  by_cases fails : .current ∈ sampler.source.failing
  · rw [readForeground_fails fails]
    trivial
  · cases found : sampler.source.foreground? with
    | none =>
        rw [readForeground_none fails found]
        trivial
    | some session =>
        rw [readForeground_found fails found]
        exact finds_choose (sampler.ask .current) (some session)

theorem finds_listed : sampler.readListed.2.Finds sampler.edge := by
  by_cases fails : .sessions ∈ sampler.source.failing
  · rw [readListed_fails fails]
    trivial
  · rw [readListed_works fails]
    exact finds_choose (sampler.ask .sessions) _

theorem finds_picture (session : Session) (small : sampler.edge < 4294967296) :
    (sampler.readPicture session).2.Finds sampler.edge := by
  by_cases fails : .thumbnail ∈ sampler.source.failing
  · rw [readPicture_fails session fails]
    trivial
  · obtain ⟨dropped, _, read⟩ := readPicture_works session fails
    rw [read]
    exact sampler.source.shown_artwork sampler.decoder small session.id

theorem finds_sampleStep (stage : SampleStage) (small : sampler.edge < 4294967296) :
    (sampler.sampleStep stage).2.Finds sampler.edge := by
  cases stage with
  | waiting =>
      simp only [sampleStep]
      split <;> trivial
  | entered => exact finds_foreground
  | listing => exact finds_listed
  | picturing session => exact finds_picture session small
  | found next =>
      simp only [sampleStep, store]
      split <;> trivial
  | changed => trivial
  | leaving published => trivial
  | done published => trivial

/-- A thumbnail that can be used is kept, and nothing is logged about it. -/
theorem readPicture_kept {session : Session} {bytes : ByteArray} {url : String}
    (works : .thumbnail ∉ sampler.source.failing)
    (held : sampler.source.thumbnails.lookup session.id = some bytes)
    (made : Artwork.encodeBy sampler.decoder bytes sampler.edge = .ok url) :
    sampler.readPicture session =
      (sampler.ask (.thumbnail session.id), .found ⟨session.heading sampler.format, url⟩) := by
  simp only [readPicture, Source.readThumbnail, Source.answer, works, if_false, held, image, made,
    TitleFormat.render_eq]
  rfl

end Sampler

namespace Errand

def Finds (edge : Nat) : Errand → Prop
  | sampling stage => stage.Finds edge
  | _ => True

theorem finds_errand (edge : Nat) (request : Request) : request.errand.Finds edge := by
  cases request <;> trivial

end Errand

theorem Listener.Section.finds {listener after : Listener} {errand next : Errand}
    (passed : listener.Section errand after next)
    (small : listener.sampler.edge < 4294967296) : next.Finds listener.sampler.edge := by
  have sequels (sequel : Sequel) : sequel.errand.Finds listener.sampler.edge := by
    cases sequel <;> trivial
  cases passed with
  | noticed change next goes =>
      rw [goes]
      split <;> trivial
  | unlisted sequel => exact sequels sequel
  | revoked sequel => exact sequels sequel
  | sampled stage => exact Sampler.finds_sampleStep stage small
  | _ => trivial

namespace Listening

variable {listening : Listening} {number : Nat} {errand : Errand}

structure Squared (listening : Listening) : Prop where
  media : Artwork.Shown listening.sampler.edge listening.sampler.media.image
  errands : ∀ errand ∈ listening.errands, errand.Finds listening.sampler.edge

theorem Squared.section {next : Errand} {after : Listener} (squared : listening.Squared)
    (guarded : listening.Guarded) (small : listening.sampler.edge < 4294967296)
    (found : listening.errands[number]? = some errand)
    (passed : listening.listener.Section errand after next) :
    (⟨after, listening.errands.set number next⟩ : Listening).Squared := by
  have member := List.mem_of_getElem? found
  have passes := passed.passes (guarded.held member)
  have edge : after.sampler.edge = listening.sampler.edge := passes.same.edge
  constructor
  · change Artwork.Shown after.sampler.edge after.sampler.media.image
    rw [edge]
    by_cases stores : ∃ state, errand = .sampling (.found state)
    · obtain ⟨state, rfl⟩ := stores
      have shown := squared.errands _ member
      cases passed
      simp only [Sampler.sampleStep, Sampler.store, NowPlaying.replace_fst]
      exact shown
    · rw [passes.media fun state same => stores ⟨state, same⟩]
      exact squared.media
  · change ∀ errand ∈ listening.errands.set number next, errand.Finds after.sampler.edge
    intro other among
    rw [edge]
    rcases List.mem_or_eq_of_mem_set among with old | new
    · exact squared.errands other old
    · exact new ▸ passed.finds small

theorem Squared.step (squared : listening.Squared) (guarded : listening.Guarded)
    (small : listening.sampler.edge < 4294967296) (move : Move) :
    (listening.step move).Squared := by
  rcases listening.step_cases move with
    ⟨number, errand, after, next, _, found, passed, same⟩ | aside
  · rw [same]
    exact squared.section guarded small found passed
  · constructor
    · rw [aside.settings.edge, aside.media]
      exact squared.media
    · intro errand among
      rw [aside.settings.edge]
      rcases aside.errands with same | ⟨request, added⟩
      · exact squared.errands errand (same ▸ among)
      · rw [added] at among
        rcases List.mem_append.mp among with old | new
        · exact squared.errands errand old
        · rw [List.mem_singleton.mp new]
          exact Errand.finds_errand _ request

theorem Squared.run (squared : listening.Squared) (guarded : listening.Guarded)
    (small : listening.sampler.edge < 4294967296) (moves : List Move) :
    (listening.run moves).Squared := by
  induction moves generalizing listening with
  | nil => exact squared
  | cons move rest ih =>
      refine ih (squared.step guarded small move) (guarded.step move) ?_
      rw [(settings_step guarded move).edge]
      exact small

theorem squared_start (format : TitleFormat) (artwork : Nat) (decoder : Artwork.Decoder) :
    (start format artwork decoder).Squared :=
  ⟨Or.inl rfl, fun _ among => absurd among List.not_mem_nil⟩

/-- A call stays where it is while only others go on. -/
theorem getElem?_run (found : listening.errands[number]? = some errand) (moves : List Move)
    (others : ∀ move ∈ moves, move ≠ .advance number) :
    (listening.run moves).errands[number]? = some errand := by
  induction moves generalizing listening with
  | nil => exact found
  | cons move rest ih =>
      refine ih ?_ fun other among => others other (List.mem_cons_of_mem _ among)
      rcases listening.step_cases move with ⟨other, _, after, next, moved, _, _, same⟩ | aside
      · have apart : other ≠ number := fun same =>
          others move List.mem_cons_self (moved.trans (congrArg Move.advance same))
        rw [same]
        exact (List.getElem?_set_ne apart).trans found
      · rcases aside.errands with same | ⟨request, added⟩
        · rw [same, found]
        · rw [added, List.getElem?_append_left (List.getElem?_eq_some_iff.mp found).1, found]

theorem media_of_found {next : NowPlaying}
    (found : listening.errands[number]? = some (.sampling (.found next))) :
    (listening.step (.advance number)).sampler.media = next := by
  change (listening.advance number).sampler.media = next
  rw [advance_found found]
  simp only [sampler, Listener.advance, Sampler.sampleStep, Sampler.store, NowPlaying.replace_fst]

/-- A call that comes to read a thumbnail which can be decoded logs nothing about it, and shows it
in the end as a square, whatever other calls and the source do before the media are replaced. -/
def KeepsThumbnails (listening : Listening) : Prop :=
  ∀ (number : Nat) (session : Session) (bytes : ByteArray) (picture : Image.Picture)
    (others : List Move),
    listening.errands[number]? = some (.sampling (.picturing session)) →
    .thumbnail ∉ listening.source.failing →
    listening.source.thumbnails.lookup session.id = some bytes →
    listening.sampler.decoder bytes = some picture →
    (∀ move ∈ others, move ≠ .advance number) →
    let read := listening.step (.advance number)
    read.sampler.log = listening.sampler.log ∧
      ∃ url, Artwork.Draws picture listening.sampler.edge url ∧
        ((read.run others).step (.advance number)).sampler.media =
          ⟨session.heading listening.sampler.format, url⟩

theorem keepsThumbnails (positive : 1 ≤ listening.sampler.edge)
    (small : listening.sampler.edge < 4294967296) : listening.KeepsThumbnails := by
  intro number session bytes picture others found works held decoded apart read
  let url := Artwork.dataUrl
    (picture.scale listening.sampler.edge listening.sampler.edge).raster
  let next : NowPlaying := ⟨session.heading listening.sampler.format, url⟩
  have kept : listening.listener.sampler.readPicture session = _ :=
    Sampler.readPicture_kept works held (Artwork.encodeBy_decoded decoded positive)
  have step : read = ⟨{ listening.listener with
      sampler := listening.sampler.ask (.thumbnail session.id) },
      listening.errands.set number (.sampling (.found next))⟩ := by
    change listening.advance number = _
    rw [advance_found found]
    simp only [Listener.advance, Sampler.sampleStep, kept]
    rfl
  have goes : read.errands[number]? = some (.sampling (.found next)) := by
    rw [step]
    exact List.getElem?_set_self (List.getElem?_eq_some_iff.mp found).1
  refine ⟨by rw [step]; rfl, url, (Artwork.draws_iff positive small).mpr rfl, ?_⟩
  exact media_of_found (getElem?_run goes others apart)

end Listening

/-- Whatever a decoder makes of the bytes of a thumbnail, encoding them fails as it should or gives
a full square of the edge that is asked for. In every state of a run of a sampler with this decoder,
what is shown is no image or a square of the configured edge, held between 16 and 288 pixels, and a
thumbnail that can be decoded is not dropped. -/
theorem Artwork.full_squares (decoder : Decoder) (sound : decoder.IsSound) (format : TitleFormat)
    (artwork : Nat) (moves : List Listening.Move) :
    (∀ bytes edge, edge ≤ 65535 → Encodes decoder bytes edge) ∧
      let listening := (Listening.start format artwork decoder).run moves
      listening.sampler.decoder = decoder ∧
        listening.sampler.edge = max 16 (min 288 artwork) ∧
        Shown listening.sampler.edge listening.sampler.media.image ∧
        listening.KeepsThumbnails := by
  refine ⟨fun bytes edge small => encodes sound bytes (by omega), ?_⟩
  intro listening
  have guarded := Listening.guarded_start format artwork decoder
  have settings := Listening.settings_run guarded moves
  have begun : (Listening.start format artwork decoder).sampler.edge =
      max 16 (min 288 artwork) := rfl
  have edge : listening.sampler.edge = max 16 (min 288 artwork) := settings.edge.trans begun
  have squared := (Listening.squared_start format artwork decoder).run guarded
    (by rw [begun]; omega) moves
  exact ⟨settings.decoder, edge, squared.media,
    Listening.keepsThumbnails (by rw [edge]; omega) (by rw [edge]; omega)⟩

def Artwork.pixel : Image.Raster := ⟨1, 1, ⟨#[120, 80, 200, 255]⟩, rfl⟩

def Listening.picturing : List Move :=
  [.source (.current (some ⟨"a", "Song", "", .playing⟩)),
    .source (.thumbnail "a" (some (Image.Png.encode Artwork.pixel))), .begin .sample,
    .advance 0, .advance 0]

theorem Artwork.full_squares_pixel :
    (∃ url raster, encode (Image.Png.encode pixel) 1 = .ok url ∧ ofDataUrl? url = some raster ∧
      raster.width = 1 ∧ raster.height = 1 ∧
        raster.bytes.data.map UInt8.toNat = #[120, 80, 200, 255]) ∧
    ∃ url, IsSquare 72 url ∧
      ((Listening.start .title 72 decode?).run
        (Listening.picturing ++ [.advance 0, .advance 0])).sampler.media = ⟨"Song", url⟩ := by
  obtain ⟨encodes, decodes, edge, _, keeps⟩ := full_squares decode? isSound_decode? .title 72
    Listening.picturing
  have decoded : decode? (Image.Png.encode pixel) = _ := decode?_encode (by decide) (by decide)
  constructor
  · obtain ⟨url, raster, made, shows, width, height, unchanged⟩ :=
      (encodes _ 1 (by decide)).square _ decoded (by decide)
    exact ⟨url, raster, made, shows, width, height, unchanged rfl rfl rfl rfl⟩
  · obtain ⟨_, url, drawn, shown⟩ := keeps 0 ⟨"a", "Song", "", .playing⟩ _ _ []
      (by decide +kernel) (by decide +kernel) rfl (by rw [decodes]; exact decoded) (by simp)
    have last (listening : Listening) : listening.run [.advance 0, .advance 0] =
        ((listening.step (.advance 0)).run []).step (.advance 0) := rfl
    have held : max 16 (min 288 72) = 72 := by decide
    have square := drawn.square
    rw [edge, held] at square
    refine ⟨url, square, ?_⟩
    rw [Listening.run, List.foldl_append]
    exact (congrArg (·.sampler.media) (last _)).trans shown

end Marquee
