import Marquee.Json.Printer

/-!
What the plugin says to the deck software: a title or an image for a button, or a line for the log.
Each call is sent as one compact JSON object.
-/

namespace Marquee

inductive Target where
  | both
  | hardware
  | software
deriving DecidableEq, Repr, Inhabited

def Target.code : Target → Nat
  | .both => 0
  | .hardware => 1
  | .software => 2

theorem Target.code_injective {left right : Target} (same : left.code = right.code) :
    left = right := by
  cases left <;> cases right <;> simp_all [Target.code]

inductive HostCall where
  | setTitle (context title : String) (target : Target)
  | setImage (context image : String) (target : Target)
  | logMessage (message : String)
deriving DecidableEq, Repr, Inhabited

namespace HostCall

private def targetJson (target : Target) : Json := .number (.int target.code)

/-- The message object. An empty image is left out, which restores the button's own icon. -/
def json : HostCall → Json
  | setTitle context title target =>
    .object [("event", .string "setTitle"), ("context", .string context),
      ("payload", .object [("title", .string title), ("target", targetJson target)])]
  | setImage context image target =>
    .object [("event", .string "setImage"), ("context", .string context),
      ("payload", .object
        ((if image.isEmpty then [] else [("image", .string image)]) ++
          [("target", targetJson target)]))]
  | logMessage message =>
    .object [("event", .string "logMessage"), ("payload", .object [("message", .string message)])]

def text (call : HostCall) : String := call.json.text

def context? : HostCall → Option String
  | setTitle context _ _ => some context
  | setImage context _ _ => some context
  | logMessage _ => none

end HostCall

def registration (event uuid : String) : String :=
  Json.text (.object [("event", .string event), ("uuid", .string uuid)])

end Marquee
