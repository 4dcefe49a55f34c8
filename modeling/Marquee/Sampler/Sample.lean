import Marquee.Sampler.Basic

/-!
Taking a sample: what the source says is read and, where it differs from what the buttons show,
published. A sample is a sequence of steps, between which the source may change and other samples
may try to begin; a whole sample runs them one after another. A request that fails ends the sample
and changes nothing.
-/

namespace Marquee

inductive SampleStage where
  /-- The lock is not taken yet. -/
  | waiting
  /-- The session in the foreground is to be read. -/
  | entered
  /-- No playing session is in the foreground: all sessions are to be read. -/
  | listing
  /-- The session and its title are known: its thumbnail is to be read. -/
  | picturing (session : Session)
  /-- What the source plays is known. -/
  | found (next : NowPlaying)
  /-- The media were replaced, and that is to be published. -/
  | changed
  /-- The lock is to be released. -/
  | leaving (published : Bool)
  | done (published : Bool)
deriving DecidableEq, Repr, Inhabited

namespace Sampler

/-- How a sample goes on with the session that plays. Without a title, nothing is shown. -/
def choose (sampler : Sampler) : Option Session → SampleStage
  | none => .found .silent
  | some session =>
    if (sampler.format.render session).isEmpty then .found .silent else .picturing session

def abandon (sampler : Sampler) (request : SourceRequest) : Sampler × SampleStage :=
  (sampler.noteFailure "media sample failed" request, .leaving false)

/-- The image for a thumbnail. Artwork that cannot be used is dropped. -/
def image (sampler : Sampler) (session : Session) : Option ByteArray → Sampler × String
  | none => (sampler, "")
  | some bytes =>
    match Artwork.encodeBy sampler.decoder bytes sampler.edge with
    | .ok image => (sampler, image)
    | .error fault =>
      (sampler.note .warn "artwork dropped"
        [("session", .text session.id), ("error", .text fault.message)], "")

def readForeground (sampler : Sampler) : Sampler × SampleStage :=
  let (source, found) := sampler.source.readCurrent
  let sampler := { sampler with source := source }
  match found with
  | .error request => sampler.abandon request
  | .ok none => (sampler, .listing)
  | .ok (some session) =>
    (sampler, if session.status.isPlaying then sampler.choose (some session) else .listing)

def readListed (sampler : Sampler) : Sampler × SampleStage :=
  let (source, found) := sampler.source.readSessions
  let sampler := { sampler with source := source }
  match found with
  | .error request => sampler.abandon request
  | .ok sessions => (sampler, sampler.choose (sessions.find? (·.status.isPlaying)))

def readPicture (sampler : Sampler) (session : Session) : Sampler × SampleStage :=
  let (source, found) := sampler.source.readThumbnail session.id
  let sampler := { sampler with source := source }
  match found with
  | .error request => sampler.abandon request
  | .ok bytes =>
    let (sampler, image) := sampler.image session bytes
    (sampler, .found ⟨sampler.format.render session, image⟩)

def store (sampler : Sampler) (next : NowPlaying) : Sampler × SampleStage :=
  let (media, changed) := sampler.media.replace next
  ({ sampler with media := media }, if changed then .changed else .leaving false)

def publish (sampler : Sampler) : Sampler × SampleStage :=
  let sampler := sampler.note .debug "media state published" [("title", .text sampler.media.title)]
  ({ sampler with published := sampler.published + 1 }, .leaving true)

def sampleStep (sampler : Sampler) : SampleStage → Sampler × SampleStage
  | .waiting =>
    if sampler.busy then (sampler, .waiting) else ({ sampler with busy := true }, .entered)
  | .entered => sampler.readForeground
  | .listing => sampler.readListed
  | .picturing session => sampler.readPicture session
  | .found next => sampler.store next
  | .changed => sampler.publish
  | .leaving published => ({ sampler with busy := false }, .done published)
  | .done published => (sampler, .done published)

def sampleSteps (sampler : Sampler) (stage : SampleStage) : Nat → Sampler × SampleStage
  | 0 => (sampler, stage)
  | steps + 1 =>
    let (sampler, stage) := sampler.sampleStep stage
    sampler.sampleSteps stage steps

def sample (sampler : Sampler) : Sampler × Bool :=
  let (sampler, stage) := sampler.sampleSteps .waiting 7
  (sampler, stage == .done true)

end Sampler

end Marquee
