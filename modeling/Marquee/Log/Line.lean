import Marquee.Log.Event
import Marquee.Message.Outbound

/-!
Handing log events over to the deck software. The values of an event are visited in the order in
which they were recorded; what belongs to the message and what belongs to the other fields is
gathered apart, and all of it makes up the text of one call.
-/

namespace Marquee.Log

structure Line where
  message : String := ""
  fields : String := ""
deriving DecidableEq, Repr, Inhabited

namespace Line

def record (line : Line) (field : String × Value) : Line :=
  if field.1 == "message" then
    { line with message := line.message ++ field.2.render }
  else
    { line with fields := line.fields ++ (" " ++ field.1 ++ "=" ++ field.2.render) }

def render (line : Line) (level : Level) (target : String) : String :=
  level.name ++ " " ++ target ++ ": " ++ line.message ++ line.fields

end Line

def forward (sent : List HostCall) (event : Event) : List HostCall :=
  sent ++ [.logMessage ((event.fields.foldl Line.record {}).render event.level event.target)]

end Marquee.Log
