/-!
A media session: one application's view of what it plays, and how its title is written on a button.
-/

namespace Marquee

inductive PlaybackStatus where
  | closed
  | opened
  | changing
  | stopped
  | playing
  | paused
  | unknown
deriving DecidableEq, Repr, Inhabited

namespace PlaybackStatus

def name : PlaybackStatus → String
  | closed => "Closed"
  | opened => "Opened"
  | changing => "Changing"
  | stopped => "Stopped"
  | playing => "Playing"
  | paused => "Paused"
  | unknown => "Unknown"

/-- Any name that is not one of the six known ones is read as unknown. -/
def ofName (name : String) : PlaybackStatus :=
  match name with
  | "Closed" => closed
  | "Opened" => opened
  | "Changing" => changing
  | "Stopped" => stopped
  | "Playing" => playing
  | "Paused" => paused
  | _ => unknown

def isPlaying (status : PlaybackStatus) : Bool := status == playing

theorem ofName_name (status : PlaybackStatus) : ofName status.name = status := by
  cases status <;> rfl

end PlaybackStatus

/-- A session at one moment. The identifier is unique among the live sessions. -/
structure Session where
  id : String := ""
  title : String := ""
  artist : String := ""
  status : PlaybackStatus := .unknown
deriving DecidableEq, Repr, Inhabited

inductive TitleFormat where
  | title
  | artistTitle
deriving DecidableEq, Repr, Inhabited

/-- The artist is put before the title only where both are known; nothing is trimmed. -/
def TitleFormat.render (format : TitleFormat) (session : Session) : String :=
  match format with
  | .title => session.title
  | .artistTitle =>
    if session.artist.isEmpty || session.title.isEmpty then
      session.title
    else
      session.artist ++ " - " ++ session.title

end Marquee
