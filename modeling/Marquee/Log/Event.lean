import Marquee.Text.Quoted

/-!
Log events and the text in which they are forwarded. An event has a level, the part of the program
it comes from and the values it recorded, in order; the values recorded under the name `message`
make up its message.
-/

namespace Marquee.Log

inductive Level where
  | error
  | warn
  | info
  | debug
  | trace
deriving DecidableEq, Repr, Inhabited

def Level.name : Level → String
  | .error => "ERROR"
  | .warn => "WARN"
  | .info => "INFO"
  | .debug => "DEBUG"
  | .trace => "TRACE"

def Level.detail : Level → Nat
  | .error => 1
  | .warn => 2
  | .info => 3
  | .debug => 4
  | .trace => 5

inductive Value where
  | text (value : String)
  | quoted (value : String)
  | number (value : Int)
  | flag (value : Bool)
deriving DecidableEq, Repr, Inhabited

def Value.render : Value → String
  | .text value => value
  | .quoted value => Text.quoted value
  | .number value => toString value
  | .flag value => if value then "true" else "false"

structure Event where
  level : Level
  target : String
  fields : List (String × Value)
deriving DecidableEq, Repr, Inhabited

namespace Event

def message (event : Event) : String :=
  String.join ((event.fields.filter fun field => field.1 == "message").map fun field =>
    field.2.render)

def details (event : Event) : String :=
  String.join ((event.fields.filter fun field => field.1 != "message").map fun field =>
    " " ++ field.1 ++ "=" ++ field.2.render)

def line (event : Event) : String :=
  event.level.name ++ " " ++ event.target ++ ": " ++ event.message ++ event.details

end Event

def event (level : Level) (target message : String) (fields : List (String × Value)) : Event :=
  ⟨level, target, ("message", .text message) :: fields⟩

end Marquee.Log
