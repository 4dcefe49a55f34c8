import Marquee.Json.Reader
import Marquee.Json.Skip
import Marquee.Settings
import Marquee.Text.Quoted

/-!
What the deck software says to the plugin. A message is a JSON object with an event name and,
where the event has them, a context, a device and a payload; members of other names are passed
over. The four may also come as a list in this order.
-/

namespace Marquee

structure Envelope where
  event : String
  context : String
  device : String
  payload : Json
deriving Repr, Inhabited

namespace Envelope

open Json Json.Reader

structure Draft where
  event : Option String := none
  context : Option String := none
  device : Option String := none
  payload : Option Json := none

def foundScalar : Json → Fault.Found
  | .null => .null
  | .bool value => .bool value
  | .number (.int value) => .number (toString value) true
  | .number (.float bits) => .number (Number.text (.float bits)) false
  | .string text => .string (Text.quoted text)
  | .array _ => .sequence
  | .object _ => .map

/-- The fault of a text where a value of another shape stands than the one `expected`. A value that
is no container is read to its end first. -/
def misfit (expected : String) (text : List Char) : Fault :=
  match text with
  | '[' :: _ => .here (.invalidType .sequence expected) text
  | '\x7b' :: _ => .here (.invalidType .map expected) text
  | _ =>
    match scalar text with
    | .ok (found, rest) => .here (.invalidType (foundScalar found) expected) rest
    | .error fault => fault

def stringMember (text : List Char) : Except Fault (String × List Char) :=
  match skipSpace text with
  | [] => .error (.past .endInValue [])
  | c :: rest => if c = '"' then Reader.string rest else .error (misfit "a string" (c :: rest))

def payloadMember (text : List Char) : Except Fault (Json × List Char) :=
  value (depthLimit - 1) text

/-- The fault of a key that was there before. The end of the object is taken if it follows at once.
-/
def repeated (name : String) (text : List Char) : Fault :=
  match skipSpace text with
  | '\x7d' :: rest => .here (.duplicateField name) rest
  | rest => .here (.duplicateField name) rest

def Draft.member (draft : Draft) (key : String) (text : List Char) :
    Except Fault (Draft × List Char) := do
  if key = "event" then
    if draft.event.isSome then .error (repeated key text) else
      let (found, rest) ← stringMember (← colon text)
      .ok (⟨some found, draft.context, draft.device, draft.payload⟩, rest)
  else if key = "context" then
    if draft.context.isSome then .error (repeated key text) else
      let (found, rest) ← stringMember (← colon text)
      .ok (⟨draft.event, some found, draft.device, draft.payload⟩, rest)
  else if key = "device" then
    if draft.device.isSome then .error (repeated key text) else
      let (found, rest) ← stringMember (← colon text)
      .ok (⟨draft.event, draft.context, some found, draft.payload⟩, rest)
  else if key = "payload" then
    if draft.payload.isSome then .error (repeated key text) else
      let (found, rest) ← payloadMember (← colon text)
      .ok (⟨draft.event, draft.context, draft.device, some found⟩, rest)
  else
    .ok (draft, ← skipValue (← colon text))

def draftMembers : Nat → Bool → Draft → List Char → Except Fault (Draft × List Char)
  | 0, _, _, text => .error (.here .endInObject text)
  | fuel + 1, first, draft, text => do
    match ← nextKey first text with
    | none => .ok (draft, (skipSpace text).drop 1)
    | some start =>
      let (key, rest) ← Reader.string start
      let (draft, rest) ← draft.member key rest
      draftMembers fuel false draft rest

def ofMembers (text : List Char) : Except Fault (Envelope × List Char) := do
  let (draft, rest) ← draftMembers (text.length + 1) true {} text
  match draft.event with
  | none => .error (.here (.missingField "event") rest)
  | some event =>
    .ok (⟨event, draft.context.getD "", draft.device.getD "", draft.payload.getD .null⟩, rest)

def optionalItem {α : Type} (item : List Char → Except Fault (α × List Char)) (first : Bool)
    (text : List Char) : Except Fault (Option α × List Char) := do
  match ← nextItem first text with
  | none => .ok (none, text)
  | some start =>
    let (found, rest) ← item start
    .ok (some found, rest)

def endOfList (text : List Char) : Except Fault (List Char) :=
  match skipSpace text with
  | [] => .error (.past .endInList [])
  | ']' :: rest => .ok rest
  | ',' :: rest =>
    match skipSpace rest with
    | ']' :: later => .error (.past .trailingComma (']' :: later))
    | later => .error (.past .trailingCharacters later)
  | rest => .error (.past .trailingCharacters rest)

def ofItems (text : List Char) : Except Fault (Envelope × List Char) := do
  let (event, rest) ← optionalItem stringMember true text
  match event with
  | none =>
    let expected := "struct InboundMessage with 4 elements"
    .error (.here (.invalidLength 0 expected) ((skipSpace rest).drop 1))
  | some event =>
    let (context, rest) ← optionalItem stringMember false rest
    let (device, rest) ← optionalItem stringMember false rest
    let (payload, rest) ← optionalItem payloadMember false rest
    let rest ← endOfList rest
    .ok (⟨event, context.getD "", device.getD "", payload.getD .null⟩, rest)

def read (text : String) : Except Fault Envelope := do
  let (envelope, rest) ← match skipSpace text.toList with
    | [] => .error (.past .endInValue [])
    | '[' :: rest => ofItems rest
    | '\x7b' :: rest => ofMembers rest
    | rest => .error (misfit "struct InboundMessage" rest)
  finish rest
  .ok envelope

end Envelope

inductive HostEvent where
  | willAppear (context : String) (settings : Json)
  | willDisappear (context : String)
  | didReceiveSettings (context : String) (settings : Json)
  | titleParametersDidChange (context : String) (fontSize : Nat)
  | keyDown (context : String)
  | keyUp (context : String)
  | deviceDidConnect (device : String)
  | deviceDidDisconnect (device : String)
  | sendToPlugin (context : String)
  | unknown (name : String)
deriving Repr, Inhabited

namespace HostEvent

/-- The event that a name selects, with the parts of the message it carries. -/
def ofEnvelope (envelope : Envelope) : HostEvent :=
  match envelope.event with
  | "willAppear" => willAppear envelope.context (Settings.ofPayload envelope.payload)
  | "willDisappear" => willDisappear envelope.context
  | "didReceiveSettings" =>
    didReceiveSettings envelope.context (Settings.ofPayload envelope.payload)
  | "titleParametersDidChange" =>
    titleParametersDidChange envelope.context (Settings.fontSize envelope.payload)
  | "keyDown" => keyDown envelope.context
  | "keyUp" => keyUp envelope.context
  | "deviceDidConnect" => deviceDidConnect envelope.device
  | "deviceDidDisconnect" => deviceDidDisconnect envelope.device
  | "sendToPlugin" => sendToPlugin envelope.context
  | name => unknown name

def read (raw : String) : Except Json.Fault HostEvent := (Envelope.read raw).map ofEnvelope

def refusal (raw : String) (fault : Json.Fault) : String :=
  "Failed to parse host message: " ++ fault.message raw

end HostEvent

end Marquee
