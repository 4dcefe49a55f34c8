import Marquee.Session

/-!
The media source: the sessions there are, which of them is in the foreground, their thumbnails,
and the registrations of those who want to hear of changes. Every call to the source is noted,
also one that fails.
-/

namespace Marquee

inductive MediaChange where
  | currentSession
  | sessions
  | mediaProperties
  | playbackInfo
deriving DecidableEq, Repr, Inhabited

def MediaChange.name : MediaChange → String
  | .currentSession => "CurrentSessionChanged"
  | .sessions => "SessionsChanged"
  | .mediaProperties => "MediaPropertiesChanged"
  | .playbackInfo => "PlaybackInfoChanged"

inductive SourceRequest where
  | current
  | sessions
  | thumbnail
  | manager
  | session (id : String)
deriving DecidableEq, Repr, Inhabited

namespace SourceRequest

def name : SourceRequest → String
  | current => "current"
  | sessions => "sessions"
  | thumbnail => "thumbnail"
  | manager => "manager"
  | session id => "session " ++ id

def failure (request : SourceRequest) : String := request.name ++ " failed: source unavailable"

end SourceRequest

inductive Topic where
  | current
  | sessions
  | media (id : String)
  | playback (id : String)
deriving DecidableEq, Repr, Inhabited

namespace Topic

def token : Topic → String
  | current => "manager/current"
  | sessions => "manager/sessions"
  | media id => id ++ "/media"
  | playback id => id ++ "/playback"

def ofManager : List Topic := [current, sessions]

def ofSession (id : String) : List Topic := [media id, playback id]

end Topic

/-- A registration. The number is never given twice. -/
structure Registration where
  number : Nat
  topic : Topic
deriving DecidableEq, Repr, Inhabited

inductive SourceCall where
  | current
  | sessions
  | thumbnail (id : String)
  | subscribeManager
  | subscribe (id : String)
  | revoke (topic : Topic)
deriving DecidableEq, Repr, Inhabited

def SourceCall.text : SourceCall → String
  | .current => "current"
  | .sessions => "sessions"
  | .thumbnail id => "thumbnail " ++ id
  | .subscribeManager => "subscribe manager"
  | .subscribe id => "subscribe " ++ id
  | .revoke topic => "revoke " ++ topic.token

structure Source where
  /-- The session in the foreground. -/
  current : Option Session := none
  sessions : List Session := []
  /-- The thumbnails of sessions; the first entry of a session counts. -/
  thumbnails : List (String × ByteArray) := []
  /-- The requests that fail. -/
  failing : List SourceRequest := []
  /-- The registrations in force, the newest last. -/
  live : List Registration := []
  /-- The number of the next registration. -/
  next : Nat := 0
  /-- The numbers of the registrations that were ended, in order. -/
  revoked : List Nat := []
  calls : List SourceCall := []
deriving Inhabited

inductive SourceEdit where
  | current (session : Option Session)
  | sessions (sessions : List Session)
  | thumbnail (id : String) (bytes : Option ByteArray)
  | failing (requests : List SourceRequest)
deriving Inhabited

namespace Source

def edit (source : Source) : SourceEdit → Source
  | .current session => { source with current := session }
  | .sessions sessions => { source with sessions := sessions }
  | .thumbnail id bytes =>
    let others := source.thumbnails.filter (·.1 != id)
    { source with thumbnails := (bytes.map fun bytes => (id, bytes)).toList ++ others }
  | .failing requests => { source with failing := requests }

def note (source : Source) (call : SourceCall) : Source :=
  { source with calls := source.calls ++ [call] }

def answer {α : Type} (source : Source) (request : SourceRequest) (found : α) :
    Except SourceRequest α :=
  if request ∈ source.failing then .error request else .ok found

def readCurrent (source : Source) : Source × Except SourceRequest (Option Session) :=
  (source.note .current, source.answer .current source.current)

def readSessions (source : Source) : Source × Except SourceRequest (List Session) :=
  (source.note .sessions, source.answer .sessions source.sessions)

def readThumbnail (source : Source) (id : String) :
    Source × Except SourceRequest (Option ByteArray) :=
  (source.note (.thumbnail id), source.answer .thumbnail (source.thumbnails.lookup id))

def register (source : Source) (topic : Topic) : Source :=
  { source with live := source.live ++ [⟨source.next, topic⟩], next := source.next + 1 }

def registerAll (source : Source) (topics : List Topic) : Source × List Nat :=
  (topics.foldl register source, List.range' source.next topics.length)

def subscribeManager (source : Source) : Source × Except SourceRequest (List Nat) :=
  let source := source.note .subscribeManager
  if .manager ∈ source.failing then
    (source, .error .manager)
  else
    let (source, numbers) := source.registerAll Topic.ofManager
    (source, .ok numbers)

def subscribeSession (source : Source) (id : String) : Source × Except SourceRequest (List Nat) :=
  let source := source.note (.subscribe id)
  if .session id ∈ source.failing then
    (source, .error (.session id))
  else
    let (source, numbers) := source.registerAll (Topic.ofSession id)
    (source, .ok numbers)

/-- The registration of a number is ended. One that is not in force stays as it is. -/
def revoke (source : Source) (number : Nat) : Source :=
  match source.live.find? (·.number == number) with
  | none => source
  | some registration =>
    { source with
      live := source.live.filter (·.number != number)
      revoked := source.revoked ++ [number]
      calls := source.calls ++ [.revoke registration.topic] }

theorem mem_live_revoke (source : Source) (number : Nat) (registration : Registration) :
    registration ∈ (source.revoke number).live ↔
      registration ∈ source.live ∧ registration.number ≠ number := by
  unfold revoke
  split
  · rename_i absent
    simp only [List.find?_eq_none, beq_iff_eq] at absent
    exact ⟨fun found => ⟨found, absent registration found⟩, And.left⟩
  · simp

def revokeAll (source : Source) (numbers : List Nat) : Source := numbers.foldl revoke source

def listens (source : Source) (token : String) : Bool :=
  source.live.any (·.topic.token == token)

end Source

end Marquee
