import Marquee.Controller.Events
import Marquee.Message.Outbound
import Marquee.Proofs.Message.Inbound

/-!
The messages that are sent to the deck software. Each is one line of JSON that holds exactly what the
call was given; read as a message of the deck software it is an event that nothing follows from.
-/

namespace Marquee

namespace HostCall

open Json

section Objects

variable (context title image message : String) (target : Target)

def imagePayload : List (String × Json) :=
  if image = "" then [("target", .number (.int target.code))]
  else [("image", .string image), ("target", .number (.int target.code))]

theorem json_setTitle : (setTitle context title target).json =
    .object [("event", .string "setTitle"), ("context", .string context),
      ("payload", .object [("title", .string title), ("target", .number (.int target.code))])] :=
  rfl

theorem json_setImage : (setImage context image target).json =
    .object [("event", .string "setImage"), ("context", .string context),
      ("payload", .object (imagePayload image target))] := by
  unfold json imagePayload
  by_cases empty : image = "" <;> simp [String.isEmpty_iff, empty] <;> rfl

theorem json_logMessage : (logMessage message).json =
    .object [("event", .string "logMessage"), ("payload", .object [("message", .string message)])] :=
  rfl

end Objects

theorem isWord_code (target : Target) : IsWord target.code := by
  cases target <;> exact ⟨by decide, by decide⟩

theorem json_whole (call : HostCall) : call.json.IsWhole := by
  cases call with
  | setTitle context title target =>
    exact ⟨trivial, trivial, ⟨trivial, isWord_code target, trivial⟩, trivial⟩
  | setImage context image target =>
    rw [json_setImage]
    unfold imagePayload
    refine ⟨trivial, trivial, ?_, trivial⟩
    split
    · exact ⟨isWord_code target, trivial⟩
    · exact ⟨trivial, isWord_code target, trivial⟩
  | logMessage message => exact ⟨trivial, ⟨trivial, trivial⟩, trivial⟩

theorem json_depth (call : HostCall) : call.json.depth = 2 := by
  cases call with
  | setTitle context title target => rfl
  | setImage context image target =>
    rw [json_setImage]
    unfold imagePayload
    split <;> rfl
  | logMessage message => rfl

/-- No key is there twice, so what is sent means itself. -/
theorem json_settled (call : HostCall) : call.json.settled = call.json := by
  cases call with
  | setTitle context title target => rfl
  | setImage context image target =>
    rw [json_setImage]
    unfold imagePayload
    split <;> rfl
  | logMessage message => rfl

theorem isTextOf_json (call : HostCall) : IsTextOf call.json call.text :=
  isTextOf_text call.json call.json_whole

theorem printed_text (call : HostCall) : Printed call.text.toList := by
  unfold text Json.text
  rw [String.toList_ofList]
  exact printed_write call.json call.json_whole

theorem read_json (call : HostCall) : Json.read call.text = .ok call.json := by
  have found := Json.read_text call.json call.json_whole (by rw [json_depth]; decide)
  rwa [json_settled] at found

theorem imagePayload_injective {image otherImage : String} {target otherTarget : Target}
    (same : imagePayload image target = imagePayload otherImage otherTarget) :
    image = otherImage ∧ target.code = otherTarget.code := by
  unfold imagePayload at same
  by_cases empty : image = "" <;> by_cases otherEmpty : otherImage = "" <;>
    simp [empty, otherEmpty] at same ⊢ <;> exact_mod_cast same

theorem json_injective {left right : HostCall} (same : left.json = right.json) : left = right := by
  cases left <;> cases right <;>
    simp only [json_setTitle, json_setImage, json_logMessage, Json.object.injEq, List.cons.injEq,
      Prod.mk.injEq, Json.string.injEq, Json.number.injEq, Json.Number.int.injEq, reduceCtorEq,
      String.reduceEq, true_and, and_true, false_and, and_false, Int.natCast_inj] at same
  · obtain ⟨rfl, rfl, code⟩ := same
    rw [Target.code_injective code]
  · obtain ⟨rfl, payload⟩ := same
    obtain ⟨rfl, code⟩ := imagePayload_injective payload
    rw [Target.code_injective code]
  · rw [same]

theorem depth_le_of_mem {member : String × Json} {members : List (String × Json)}
    (present : member ∈ members) : member.2.depth ≤ depthOfMembers members := by
  induction members with
  | nil => cases present
  | cons first members ih =>
      rw [depthOfMembers]
      rcases List.mem_cons.mp present with rfl | later
      · exact Nat.le_max_left ..
      · exact Nat.le_trans (ih later) (Nat.le_max_right ..)

/-- What would be read of a call if it came from the deck software. -/
theorem read_event {call : HostCall} {members : List (String × Json)}
    (object : call.json = .object members) (accepted : Envelope.Accepted members) :
    HostEvent.read call.text = .ok (HostEvent.ofEnvelope ⟨Envelope.textOf "event" members,
      Envelope.textOf "context" members, Envelope.textOf "device" members,
      Envelope.payloadOf members⟩) := by
  have spelled := isTextOf_json call
  have deep := json_depth call
  rw [object] at spelled deep
  apply HostEvent.read_accepted spelled _ accepted
  intro item held
  obtain ⟨member, kept, rfl⟩ := List.mem_map.mp held
  have bounded := depth_le_of_mem (List.mem_of_mem_filter kept)
  have within : depthOfMembers members + 1 = 2 := deep
  omega

/-- A call is sent as one line of JSON that spells an object with these members and is read back as
this object. As a message of the deck software it is an event without a meaning. -/
structure IsSentAs (call : HostCall) (name : String) (members : List (String × Json)) : Prop where
  printed : Printed call.text.toList
  spelled : IsTextOf (.object members) call.text
  found : Json.read call.text = .ok (.object members)
  echoed : HostEvent.read call.text = .ok (.unknown name)

theorem isSentAs {call : HostCall} {members : List (String × Json)} {name : String}
    (object : call.json = .object members) (accepted : Envelope.Accepted members)
    (unnamed : HostEvent.ofEnvelope ⟨Envelope.textOf "event" members,
      Envelope.textOf "context" members, Envelope.textOf "device" members,
      Envelope.payloadOf members⟩ = .unknown name) : call.IsSentAs name members where
  printed := printed_text call
  spelled := object ▸ isTextOf_json call
  found := object ▸ read_json call
  echoed := unnamed ▸ read_event object accepted

section Objects

variable (context title image message : String) (target : Target)

theorem isSentAs_setTitle : (setTitle context title target).IsSentAs "setTitle"
    [("event", .string "setTitle"), ("context", .string context),
      ("payload", .object [("title", .string title), ("target", .number (.int target.code))])] :=
  isSentAs (json_setTitle ..) ⟨⟨_, rfl⟩, Or.inr ⟨_, rfl⟩, Or.inl rfl, Nat.le_refl 1⟩ rfl

theorem isSentAs_setImage : (setImage context image target).IsSentAs "setImage"
    [("event", .string "setImage"), ("context", .string context),
      ("payload", .object (imagePayload image target))] :=
  isSentAs (json_setImage ..) ⟨⟨_, rfl⟩, Or.inr ⟨_, rfl⟩, Or.inl rfl, Nat.le_refl 1⟩ rfl

theorem isSentAs_logMessage : (logMessage message).IsSentAs "logMessage"
    [("event", .string "logMessage"), ("payload", .object [("message", .string message)])] :=
  isSentAs (json_logMessage _) ⟨⟨_, rfl⟩, Or.inl rfl, Or.inl rfl, Nat.le_refl 1⟩ rfl

end Objects

theorem echo_unknown (call : HostCall) : ∃ name, HostEvent.read call.text = .ok (.unknown name) := by
  cases call with
  | setTitle context title target => exact ⟨_, (isSentAs_setTitle context title target).echoed⟩
  | setImage context image target => exact ⟨_, (isSentAs_setImage context image target).echoed⟩
  | logMessage message => exact ⟨_, (isSentAs_logMessage message).echoed⟩

/-- What is sent to the deck software is faithful to the call, whatever characters its strings have:
one line of JSON with the very strings and the number of the target, where an empty image is left
out. Calls that are sent as the same text are the same, and a call that comes back does no more than
leave a line in the log. -/
theorem text_faithful :
    (∀ context title target, (setTitle context title target).IsSentAs "setTitle"
      [("event", .string "setTitle"), ("context", .string context),
        ("payload", .object [("title", .string title), ("target", .number (.int target.code))])]) ∧
    (∀ context image target, image ≠ "" → (setImage context image target).IsSentAs "setImage"
      [("event", .string "setImage"), ("context", .string context),
        ("payload", .object [("image", .string image), ("target", .number (.int target.code))])]) ∧
    (∀ context target, (setImage context "" target).IsSentAs "setImage"
      [("event", .string "setImage"), ("context", .string context),
        ("payload", .object [("target", .number (.int target.code))])]) ∧
    (∀ message, (logMessage message).IsSentAs "logMessage"
      [("event", .string "logMessage"), ("payload", .object [("message", .string message)])]) ∧
    (∀ left right : HostCall, left.text = right.text → left = right) ∧
    (∀ (controller : Controller) (call : HostCall), ∃ line, controller.handleMessage call.text =
      { controller with
        sampler := { controller.sampler with log := controller.sampler.log ++ [line] } }) := by
  refine ⟨isSentAs_setTitle, ?_, ?_, isSentAs_logMessage, ?_, ?_⟩
  · intro context image target shown
    have sent := isSentAs_setImage context image target
    rwa [imagePayload, if_neg shown] at sent
  · intro context target
    exact isSentAs_setImage context "" target
  · intro left right same
    have found := read_json left
    rw [same, read_json right] at found
    exact json_injective (Except.ok.inj found).symm
  · intro controller call
    obtain ⟨name, echo⟩ := echo_unknown call
    rw [Controller.handleMessage, echo]
    exact ⟨_, rfl⟩

/-- An image for the hardware, and two texts that differ. -/
theorem text_faithful_image :
    "\x7b\"event\":\"setImage\",\"context\":\"a\",\"payload\":\x7b\"image\":\"\\n\",\"target\":1\x7d\x7d" =
      (setImage "a" "\n" .hardware).text ∧
    (setImage "a" "\n" .hardware).IsSentAs "setImage"
      [("event", .string "setImage"), ("context", .string "a"),
        ("payload", .object [("image", .string "\n"), ("target", .number (.int 1))])] ∧
    (setImage "a" "\n" .hardware).text ≠ (setImage "a" "" .hardware).text := by
  refine ⟨by decide, text_faithful.2.1 "a" "\n" .hardware (by decide), fun same => ?_⟩
  have equal := text_faithful.2.2.2.2.1 _ _ same
  revert equal
  decide

end HostCall

end Marquee
