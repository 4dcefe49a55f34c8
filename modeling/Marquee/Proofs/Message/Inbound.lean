import Mathlib.Data.List.Perm.Basic
import Marquee.Proofs.Json.Printing
import Marquee.Proofs.Message.Envelope

/-!
The message format of the deck software. A message is accepted exactly if its event is there once
and a string, its context and device at most once and strings, and its payload at most once; the
event it announces depends on these four alone, wherever they stand among other members.
-/

namespace Marquee

namespace Envelope

open Json

def given (key : String) (members : List (String × Json)) : List Json :=
  (members.filter fun member => member.1 == key).map Prod.snd

def fill {α : Type} (read : Json → Option α) : Option α → List Json → Option (Option α)
  | old, [] => some old
  | some _, _ :: _ => none
  | none, item :: items => (read item).bind fun found => fill read (some found) items

theorem given_cons_same (key : String) (item : Json) (members : List (String × Json)) :
    given key ((key, item) :: members) = item :: given key members := by
  simp [given]

theorem given_cons_other {key other : String} (differ : other ≠ key) (item : Json)
    (members : List (String × Json)) : given key ((other, item) :: members) = given key members := by
  simp [given, differ]

/-- The four parts of a draft are filled independently of each other. -/
theorem takeAll_eq (draft : Draft) (members : List (String × Json)) :
    draft.takeAll members =
      (fill string? draft.event (given "event" members)).bind fun event =>
      (fill string? draft.context (given "context" members)).bind fun context =>
      (fill string? draft.device (given "device" members)).bind fun device =>
      (fill (fun item => some item.settled) draft.payload (given "payload" members)).map fun payload =>
        ⟨event, context, device, payload⟩ := by
  induction members generalizing draft with
  | nil => rfl
  | cons member members ih =>
      obtain ⟨key, item⟩ := member
      obtain ⟨event, context, device, payload⟩ := draft
      rw [takeAll_cons]
      -- The key decides which part the member fills; the values given for the other three stay the same.
      by_cases isEvent : key = "event"
      · subst isEvent
        cases event <;> cases found : string? item <;>
          simp [given_cons_same, given_cons_other, Draft.take, fill, ih, found]
      by_cases isContext : key = "context"
      · subst isContext
        cases context <;> cases found : string? item <;>
          simp [given_cons_same, given_cons_other, Draft.take, fill, ih, found]
      by_cases isDevice : key = "device"
      · subst isDevice
        cases device <;> cases found : string? item <;>
          simp [given_cons_same, given_cons_other, Draft.take, fill, ih, found]
      by_cases isPayload : key = "payload"
      · subst isPayload
        cases payload <;> simp [given_cons_same, given_cons_other, Draft.take, fill, ih]
      · simp [given_cons_other, isEvent, isContext, isDevice, isPayload, Draft.take, ih]

structure Accepted (members : List (String × Json)) : Prop where
  event : ∃ name, given "event" members = [.string name]
  context : given "context" members = [] ∨ ∃ text, given "context" members = [.string text]
  device : given "device" members = [] ∨ ∃ text, given "device" members = [.string text]
  payload : (given "payload" members).length ≤ 1

def textOf (key : String) (members : List (String × Json)) : String :=
  match given key members with
  | [.string text] => text
  | _ => ""

def payloadOf (members : List (String × Json)) : Json :=
  match given "payload" members with
  | [item] => item.settled
  | _ => .null

theorem envelope_accepted {members : List (String × Json)} (accepted : Accepted members) :
    (Draft.takeAll {} members).bind Draft.envelope? =
      some ⟨textOf "event" members, textOf "context" members, textOf "device" members,
        payloadOf members⟩ := by
  obtain ⟨⟨name, event⟩, context, device, payload⟩ := accepted
  have text {key : String} (some_or_none : given key members = [] ∨
      ∃ text, given key members = [.string text]) :
      ∃ found, fill string? none (given key members) = some found ∧
        found.getD "" = textOf key members := by
    unfold textOf
    rcases some_or_none with empty | ⟨text, one⟩
    · exact ⟨none, by rw [empty]; rfl, by rw [empty]; rfl⟩
    · exact ⟨some text, by rw [one]; rfl, by rw [one]; rfl⟩
  obtain ⟨context, contextFilled, contextText⟩ := text context
  obtain ⟨device, deviceFilled, deviceText⟩ := text device
  obtain ⟨found, payloadFilled, payloadValue⟩ : ∃ found,
      fill (fun item => some item.settled) none (given "payload" members) = some found ∧
        found.getD .null = payloadOf members := by
    unfold payloadOf
    match given "payload" members, payload with
    | [], _ => exact ⟨none, rfl, rfl⟩
    | [item], _ => exact ⟨some item.settled, rfl, rfl⟩
  have eventFilled : fill string? none (given "event" members) = some (some name) := by
    rw [event]
    rfl
  have eventText : textOf "event" members = name := by
    unfold textOf
    rw [event]
  rw [takeAll_eq]
  simp [eventFilled, contextFilled, deviceFilled, payloadFilled, Draft.envelope?, eventText,
    contextText, deviceText, payloadValue]

theorem Accepted.length_le {members : List (String × Json)} (accepted : Accepted members)
    {key : String} (known : key ∈ ["event", "context", "device", "payload"]) :
    (given key members).length ≤ 1 := by
  have text {items : List Json} (some_or_none : items = [] ∨ ∃ text, items = [.string text]) :
      items.length ≤ 1 := by
    rcases some_or_none with rfl | ⟨text, rfl⟩ <;> simp
  simp only [List.mem_cons, List.not_mem_nil, or_false] at known
  rcases known with rfl | rfl | rfl | rfl
  · exact text (Or.inr accepted.event)
  · exact text accepted.context
  · exact text accepted.device
  · exact accepted.payload

/-- The reading of an object, with the depth of the payloads as its only limit. -/
theorem read_given {members : List (String × Json)} {text : String}
    (spelled : IsTextOf (.object members) text)
    (shallow : ∀ item ∈ given "payload" members, item.depth ≤ 126) :
    Goes (read text) ((Draft.takeAll {} members).bind Draft.envelope?) := by
  apply read_object spelled
  intro member present payload
  have held : member.2 ∈ given "payload" members :=
    List.mem_map.mpr ⟨member, List.mem_filter.mpr ⟨present, by simp [payload]⟩, rfl⟩
  exact Nat.lt_succ_of_le (shallow member.2 held)

end Envelope

namespace HostEvent

open Envelope Json

def names : List String :=
  ["willAppear", "willDisappear", "didReceiveSettings", "titleParametersDidChange", "keyDown",
    "keyUp", "deviceDidConnect", "deviceDidDisconnect", "sendToPlugin"]

section Reading

variable {members : List (String × Json)} {text : String}
  (spelled : IsTextOf (.object members) text)
  (shallow : ∀ item ∈ given "payload" members, item.depth ≤ 126)
include spelled shallow

theorem read_accepted (accepted : Accepted members) :
    read text = .ok (ofEnvelope ⟨textOf "event" members, textOf "context" members,
      textOf "device" members, payloadOf members⟩) := by
  have goes := read_given spelled shallow
  rw [envelope_accepted accepted] at goes
  have found : Envelope.read text = .ok _ := goes
  rw [read, found]
  rfl

end Reading

end HostEvent

end Marquee
