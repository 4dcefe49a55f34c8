import Marquee.Sampler.Basic

/-!
The registrations of the sampler: one set for the source as a whole, and one for each session that
the source lists. What the sampler no longer holds is revoked at the source.
-/

namespace Marquee.Sampler

def revokeAll (sampler : Sampler) (numbers : List Nat) : Sampler :=
  { sampler with source := sampler.source.revokeAll numbers }

/-- The registrations for the source as a whole are made anew. The former ones stay if that fails.
-/
def subscribeManager (sampler : Sampler) : Sampler :=
  let (source, made) := sampler.source.subscribeManager
  match made with
  | .ok numbers => { sampler with source := source, manager := numbers }.revokeAll sampler.manager
  | .error request =>
    { sampler with source := source }.noteFailure "media manager subscription failed" request

/-- The sessions that the source lists, each with a log line; nothing if the request fails. -/
def listSessions (sampler : Sampler) : Sampler × Option (List Session) :=
  let (source, found) := sampler.source.readSessions
  let sampler := { sampler with source := source }
  match found with
  | .error request => (sampler.noteFailure "listing media sessions failed" request, none)
  | .ok sessions =>
    let noteSession (sampler : Sampler) (session : Session) : Sampler :=
      sampler.note .debug "media session"
        [("session", .text session.id), ("status", .text session.status.name)]
    (sessions.foldl noteSession sampler, some sessions)

def isListed (sessions : List Session) (id : String) : Bool := sessions.any (·.id == id)

def dropUnlisted (sampler : Sampler) (sessions : List Session) : Sampler × List Nat :=
  let gone := sampler.sessions.filter fun entry => !isListed sessions entry.1
  let kept := sampler.sessions.filter fun entry => isListed sessions entry.1
  let noteGone (sampler : Sampler) (entry : String × List Nat) : Sampler :=
    sampler.note .info "media session removed" [("session", .text entry.1)]
  (gone.foldl noteGone { sampler with sessions := kept }, gone.flatMap Prod.snd)

def addSession (sampler : Sampler) (session : Session) : Sampler :=
  if session.id ∈ sampler.subscribed then
    sampler
  else
    let (source, made) := sampler.source.subscribeSession session.id
    let sampler := { sampler with source := source }
    match made with
    | .ok numbers =>
      { sampler with sessions := sampler.sessions ++ [(session.id, numbers)] }.note .info
        "media session added" [("session", .text session.id)]
    | .error request =>
      sampler.note .warn "session subscription failed"
        [("session", .text session.id), ("error", .text request.failure)]

def update (sampler : Sampler) (sessions : List Session) : Sampler × List Nat :=
  let (sampler, stale) := sampler.dropUnlisted sessions
  (sessions.foldl addSession sampler, stale)

def sync (sampler : Sampler) : Sampler :=
  match sampler.listSessions with
  | (sampler, none) => sampler
  | (sampler, some sessions) =>
    let (sampler, stale) := sampler.update sessions
    sampler.revokeAll stale

def takeManager (sampler : Sampler) : Sampler × List Nat :=
  ({ sampler with manager := [] }, sampler.manager)

def takeSessions (sampler : Sampler) : Sampler × List Nat :=
  ({ sampler with sessions := [] }, sampler.sessions.flatMap Prod.snd)

def detach (sampler : Sampler) : Sampler :=
  let (sampler, manager) := sampler.takeManager
  let (sampler, sessions) := sampler.takeSessions
  (sampler.revokeAll manager).revokeAll sessions

def drop (sampler : Sampler) : Sampler := { sampler.detach with alive := false }

end Marquee.Sampler
