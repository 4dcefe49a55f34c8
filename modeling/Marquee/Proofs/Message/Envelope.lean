import Marquee.Message.Inbound
import Marquee.Proofs.Json.Skipping

/-!
An envelope read from an object of any members. What comes of it depends on the values given under
the four known keys only: reading fails, as data of the wrong shape, exactly where one of them is
there twice, has the wrong kind, or the event is missing.
-/

namespace Marquee.Envelope

open Json Json.Reader

def string? : Json → Option String
  | .string text => some text
  | _ => none

def Draft.take (draft : Draft) (member : String × Json) : Option Draft :=
  if member.1 = "event" then
    if draft.event.isSome then none else
      (string? member.2).map fun found =>
        ⟨some found, draft.context, draft.device, draft.payload⟩
  else if member.1 = "context" then
    if draft.context.isSome then none else
      (string? member.2).map fun found => ⟨draft.event, some found, draft.device, draft.payload⟩
  else if member.1 = "device" then
    if draft.device.isSome then none else
      (string? member.2).map fun found => ⟨draft.event, draft.context, some found, draft.payload⟩
  else if member.1 = "payload" then
    if draft.payload.isSome then none else
      some ⟨draft.event, draft.context, draft.device, some member.2.settled⟩
  else some draft

/-- A reading goes as expected: it gives the value, or where none is expected, it fails for the
shape of the data. -/
def Goes {α : Type} (reading : Except Fault α) : Option α → Prop
  | some value => reading = .ok value
  | none => ∃ fault, reading = .error fault ∧ fault.cause.kind = .data

theorem misfit_spelled (expected : String) {item : Json} {core rest : List Char}
    (spelled : Spells item core) (closes : Closes rest) :
    (misfit expected (core ++ rest)).cause.kind = .data := by
  unfold misfit
  split
  · rfl
  · rfl
  · next noList noObject =>
      have flat : item.depth = 0 := by
        obtain ⟨c, tail, rfl, begins⟩ := begins_spelled spelled
        cases item with
        | null | bool _ | number _ | string _ => rfl
        | array _ => exact absurd (congrArg (· :: (tail ++ rest)) begins) (noList _)
        | object _ => exact absurd (congrArg (· :: (tail ++ rest)) begins) (noObject _)
      rw [scalar_spelled spelled closes flat]
      rfl

section Members

variable {item : Json} {core leading rest : List Char}

theorem stringMember_spelled (spelled : Spells item core) (blank : Blank leading)
    (closes : Closes rest) :
    Goes (stringMember (leading ++ (core ++ rest))) ((string? item).map (·, rest)) := by
  have begun := skipSpace_spelled spelled blank rest
  have misfits := misfit_spelled "a string" spelled closes
  unfold stringMember
  rw [begun]
  obtain ⟨c, tail, rfl, begins⟩ := begins_spelled spelled
  simp only [List.cons_append] at misfits ⊢
  match item, begins, spelled with
  | .string value, begins, ⟨chars, name, written⟩ =>
    obtain ⟨rfl, rfl⟩ := List.cons.inj written
    have read := string_spelled name rest
    simp only [if_true, List.append_assoc, List.singleton_append]
    exact read
  | .null, begins, _ | .bool true, begins, _ | .bool false, begins, _ | .array _, begins, _
  | .object _, begins, _ =>
    obtain rfl := begins
    exact ⟨_, rfl, misfits⟩
  | .number _, begins, _ =>
    have noQuote : c ≠ '"' := by
      rintro rfl
      rcases begins with same | digit
      · cases same
      · cases digit
    rw [if_neg noQuote]
    exact ⟨_, rfl, misfits⟩

theorem repeated_kind (name : String) (text : List Char) :
    (repeated name text).cause.kind = .data := by
  unfold repeated
  split <;> rfl

variable {behind : List Char}

theorem stored_spelled (place : String → Draft) (spelled : Spells item core)
    (colon : Blank behind) (blank : Blank leading) (closes : Closes rest) :
    Goes (do
        let (found, rest) ← stringMember (← Reader.colon
          (behind ++ ':' :: (leading ++ (core ++ rest))))
        .ok (place found, rest))
      (((string? item).map place).map (·, rest)) := by
  have text := stringMember_spelled spelled blank closes
  rw [colon_blank colon]
  cases found : string? item with
  | none =>
      rw [found] at text
      obtain ⟨fault, failed, shape⟩ := text
      exact ⟨fault, by simp [failed, bind, Except.bind], shape⟩
  | some value =>
      rw [found] at text
      have read : stringMember (leading ++ (core ++ rest)) = .ok (value, rest) := text
      simp [Goes, read, bind, Except.bind]

/-- One member: its value is taken, refused or passed over. -/
theorem member_spelled (draft : Draft) (key : String) (spelled : Spells item core)
    (colon : Blank behind) (blank : Blank leading) (closes : Closes rest)
    (shallow : key = "payload" → item.depth < depthLimit - 1) :
    Goes (draft.member key (behind ++ ':' :: (leading ++ (core ++ rest))))
      ((draft.take (key, item)).map (·, rest)) := by
  have twice : Goes (α := Draft × List Char)
      (.error (repeated key (behind ++ ':' :: (leading ++ (core ++ rest))))) none :=
    ⟨_, rfl, repeated_kind _ _⟩
  unfold Draft.member Draft.take
  split
  · split
    · exact twice
    · exact stored_spelled _ spelled colon blank closes
  split
  · split
    · exact twice
    · exact stored_spelled _ spelled colon blank closes
  split
  · split
    · exact twice
    · exact stored_spelled _ spelled colon blank closes
  split
  · next same =>
      split
      · exact twice
      · have read := value_spelled item spelled (shallow same) blank closes
        simp [Goes, colon_blank colon, payloadMember, read, bind, Except.bind]
  · have skipped := skipValue_spelled spelled blank closes
    simp [Goes, colon_blank colon, skipped, bind, Except.bind]

end Members

def Draft.takeAll (draft : Draft) (members : List (String × Json)) : Option Draft :=
  members.foldlM Draft.take draft

theorem takeAll_cons (draft : Draft) (member : String × Json) (members : List (String × Json)) :
    draft.takeAll (member :: members) = (draft.take member).bind (·.takeAll members) := by
  simp only [Draft.takeAll, List.foldlM_cons]
  rfl

theorem draftMembers_member {draft : Draft} {first : Bool}
    {text chars behind written more : List Char} {key : String} {item : Json} {fuel : Nat}
    {expected : Draft → Option (Draft × List Char)}
    (next : nextKey first text = .ok (some (chars ++ '"' :: (behind ++ ':' :: written))))
    (name : SpellsChars key.toList chars)
    (member : Goes (draft.member key (behind ++ ':' :: written))
      ((draft.take (key, item)).map (·, more)))
    (later : ∀ after, Goes (draftMembers fuel false after more) (expected after)) :
    Goes (draftMembers (fuel + 1) first draft text) ((draft.take (key, item)).bind expected) := by
  have named := string_spelled name (behind ++ ':' :: written)
  cases taken : draft.take (key, item) with
  | none =>
      rw [taken] at member
      obtain ⟨fault, failed, shape⟩ := member
      exact ⟨fault, by simp [draftMembers, next, named, failed, bind, Except.bind], shape⟩
  | some after =>
      rw [taken] at member
      have read : draft.member key (behind ++ ':' :: written) = .ok (after, more) := member
      have same : draftMembers (fuel + 1) first draft text = draftMembers fuel false after more := by
        simp [draftMembers, next, named, read, bind, Except.bind]
      rw [same]
      exact later after

theorem draftMembers_spelled (members : List (String × Json)) {pieces : List (List Char)}
    (each : SpellsMembers members pieces) {blanks : List Char} (blank : Blank blanks)
    (shallow : ∀ member ∈ members, member.1 = "payload" → member.2.depth < depthLimit - 1)
    (draft : Draft) (rest : List Char) {fuel : Nat} (room : pieces.length < fuel) :
    Goes (draftMembers fuel false draft (blanks ++ (pieces.flatMap (',' :: ·) ++ '\x7d' :: rest)))
      ((draft.takeAll members).map (·, rest)) := by
  induction members generalizing pieces blanks draft fuel with
  | nil =>
      obtain rfl : pieces = [] := each
      obtain ⟨fuel, rfl⟩ := Nat.exists_eq_add_one_of_ne_zero (Nat.ne_of_gt room)
      obtain ⟨ended, dropped⟩ := nextKey_end blank false rest
      simp [Goes, draftMembers, Draft.takeAll, ended, dropped, bind, Except.bind]
  | cons member members ih =>
      -- The blanks behind the value are those before the next comma.
      obtain ⟨key, item⟩ := member
      obtain ⟨piece, others, member, remaining, rfl⟩ := each
      obtain ⟨fuel, rfl⟩ := Nat.exists_eq_add_one_of_ne_zero (Nat.ne_zero_of_lt room)
      obtain ⟨before, chars, behind, leading, core, trailing, ahead, name, colon, indent, spelled,
        after, rfl⟩ := member.parts
      have closes := (closes_object rest).separated others |>.after_blank after
      have first := member_spelled draft key spelled colon indent closes
        (shallow (key, item) List.mem_cons_self)
      have later (after' : Draft) := ih remaining after
        (fun other member => shallow other (List.mem_cons_of_mem _ member)) after'
        (Nat.lt_of_succ_lt_succ room)
      simp only [List.flatMap_cons, List.cons_append, List.append_assoc] at first ⊢
      rw [takeAll_cons, Option.map_bind]
      exact draftMembers_member (nextKey_comma blank ahead _) name first later

theorem draftMembers_object (members : List (String × Json)) {pieces : List (List Char)}
    (each : SpellsMembers members pieces) {inner : List Char} (separated : Separated pieces inner)
    (shallow : ∀ member ∈ members, member.1 = "payload" → member.2.depth < depthLimit - 1)
    (rest : List Char) :
    Goes (draftMembers ((inner ++ '\x7d' :: rest).length + 1) true {} (inner ++ '\x7d' :: rest))
      ((Draft.takeAll {} members).map (·, rest)) := by
  have room := length_pieces_le separated '\x7d' rest
  cases members with
  | nil =>
      obtain rfl : pieces = [] := each
      obtain ⟨ended, dropped⟩ := nextKey_end separated true rest
      simp [Goes, draftMembers, Draft.takeAll, ended, dropped, bind, Except.bind]
  | cons member members =>
      obtain ⟨key, item⟩ := member
      obtain ⟨piece, others, member, remaining, rfl⟩ := each
      obtain ⟨before, chars, behind, leading, core, trailing, ahead, name, colon, indent, spelled,
        after, rfl⟩ := member.parts
      obtain rfl : inner = _ ++ others.flatMap (',' :: ·) := separated
      have closes := (closes_object rest).separated others |>.after_blank after
      have first := member_spelled {} key spelled colon indent closes
        (shallow (key, item) List.mem_cons_self)
      have later (draft : Draft) := draftMembers_spelled members remaining after
        (fun other member => shallow other (List.mem_cons_of_mem _ member)) draft rest room
      rw [takeAll_cons, Option.map_bind]
      simp only [List.cons_append, List.append_assoc] at first later ⊢
      exact draftMembers_member (nextKey_first ahead _) name first later

def Draft.envelope? (draft : Draft) : Option Envelope :=
  draft.event.map fun event =>
    ⟨event, draft.context.getD "", draft.device.getD "", draft.payload.getD .null⟩

theorem ofMembers_object (members : List (String × Json)) {pieces : List (List Char)}
    (each : SpellsMembers members pieces) {inner : List Char} (separated : Separated pieces inner)
    (shallow : ∀ member ∈ members, member.1 = "payload" → member.2.depth < depthLimit - 1)
    (rest : List Char) :
    Goes (ofMembers (inner ++ '\x7d' :: rest))
      (((Draft.takeAll {} members).bind Draft.envelope?).map (·, rest)) := by
  have drafted := draftMembers_object members each separated shallow rest
  unfold ofMembers
  rw [Option.map_bind]
  cases taken : Draft.takeAll {} members with
  | none =>
      rw [taken] at drafted
      obtain ⟨fault, failed, shape⟩ := drafted
      rw [failed]
      exact ⟨fault, rfl, shape⟩
  | some draft =>
      rw [taken] at drafted
      have found : draftMembers _ true {} (inner ++ '\x7d' :: rest) = .ok (draft, rest) := drafted
      rw [found]
      cases event : draft.event with
      | none =>
          simp only [Option.bind_some, Function.comp_apply, Draft.envelope?, event, Option.map_none]
          refine ⟨.here (.missingField "event") rest, ?_, rfl⟩
          simp [event, bind, Except.bind]
      | some name => simp [Goes, Draft.envelope?, event, bind, Except.bind]

/-- The text of an object is read as the envelope of its members. -/
theorem read_object {members : List (String × Json)} {text : String}
    (spelled : IsTextOf (.object members) text)
    (shallow : ∀ member ∈ members, member.1 = "payload" → member.2.depth < depthLimit - 1) :
    Goes (read text) ((Draft.takeAll {} members).bind Draft.envelope?) := by
  obtain ⟨before, core, after, ahead, spelled, behind, written⟩ := spelled
  have begun := skipSpace_spelled spelled ahead after
  obtain ⟨pieces, inner, each, separated, rfl⟩ := spelled
  have found := ofMembers_object members each separated shallow after
  have ended : skipSpace after = [] := by
    have blanks := skipSpace_blank behind []
    rwa [List.append_nil] at blanks
  simp only [List.cons_append, List.append_assoc, List.nil_append] at begun written
  have whole : read text = (ofMembers (inner ++ '\x7d' :: after)).bind fun found =>
      (finish found.2).bind fun _ => .ok found.1 := by
    unfold read
    rw [written, begun]
    rfl
  rw [whole]
  cases expected : (Draft.takeAll {} members).bind Draft.envelope? with
  | none =>
      rw [expected] at found
      obtain ⟨fault, failed, shape⟩ := found
      rw [failed]
      exact ⟨fault, rfl, shape⟩
  | some envelope =>
      rw [expected] at found
      have found : ofMembers (inner ++ '\x7d' :: after) = .ok (envelope, after) := found
      simp [Goes, found, finish, ended, Except.bind]

end Marquee.Envelope
