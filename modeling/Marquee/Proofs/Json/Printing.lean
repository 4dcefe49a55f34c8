import Marquee.Json.Printer
import Marquee.Proofs.Json.Values

/-!
The text that is written for a value spells it, and holds no control characters; so reading it gives
the value back.
-/

namespace Marquee.Json

mutual

def IsWhole : Json → Prop
  | .number (.int value) => IsWord value
  | .number (.float _) => False
  | .array items => AreWhole items
  | .object members => AreWholeMembers members
  | _ => True

def AreWhole : List Json → Prop
  | [] => True
  | item :: items => item.IsWhole ∧ AreWhole items

def AreWholeMembers : List (String × Json) → Prop
  | [] => True
  | (_, item) :: members => item.IsWhole ∧ AreWholeMembers members

end

theorem spellsChar_escaped (c : Char) : SpellsChar c (escaped c) := by
  unfold escaped
  iterate 7
    split
    · next same =>
        rw [same]
        exact .short (by decide)
  split
  · next control =>
      refine .unit ⟨'0', '0', _, _, 0, 0, c.toNat / 16, c.toNat % 16, rfl, ?_, ?_, ?_, ?_, ?_⟩
      · exact ⟨by decide, Or.inl rfl⟩
      · exact ⟨by decide, Or.inl rfl⟩
      · exact ⟨by omega, Or.inl rfl⟩
      · exact ⟨by omega, Or.inl rfl⟩
      · omega
  · next noQuote noBackslash _ _ _ _ _ printed =>
      exact .plain (Nat.not_lt.mp printed) noQuote noBackslash

theorem spellsChars_escaped (chars : List Char) : SpellsChars chars (chars.flatMap escaped) := by
  induction chars with
  | nil => exact .nil
  | cons c chars ih => exact .cons (spellsChar_escaped c) ih

theorem spellsString_writeString (value : String) : SpellsString value (writeString value) :=
  ⟨_, spellsChars_escaped value.toList, rfl⟩

def writeMember (member : String × Json) : List Char :=
  writeString member.1 ++ ':' :: member.2.write

theorem separated_writeItems (items : List Json) :
    Separated (items.map write) (writeItems items) := by
  induction items with
  | nil => exact blank_nil
  | cons item items ih =>
      cases items with
      | nil => exact (List.append_nil _).symm
      | cons other items =>
          have joined : writeItems (other :: items) =
            other.write ++ (items.map write).flatMap (',' :: ·) := ih
          simp only [Separated, List.map_cons, writeItems, joined, List.flatMap_cons,
            List.cons_append]

theorem separated_writeMembers (members : List (String × Json)) :
    Separated (members.map writeMember) (writeMembers members) := by
  induction members with
  | nil => exact blank_nil
  | cons member members ih =>
      cases members with
      | nil => exact (List.append_nil _).symm
      | cons other members =>
          have joined : writeMembers (other :: members) =
            writeMember other ++ (members.map writeMember).flatMap (',' :: ·) := ih
          simp only [Separated, List.map_cons, writeMembers, joined, List.flatMap_cons,
            List.cons_append, writeMember, List.append_assoc]

mutual

theorem spells_write (item : Json) (whole : item.IsWhole) : Spells item item.write := by
  match item with
  | .null => rfl
  | .bool true => rfl
  | .bool false => rfl
  | .number (.int value) => exact ⟨whole, rfl⟩
  | .string value => exact spellsString_writeString value
  | .array items => exact ⟨_, _, spells_writeItems items whole, separated_writeItems items, rfl⟩
  | .object members =>
    exact ⟨_, _, spells_writeMembers members whole, separated_writeMembers members, rfl⟩

theorem spells_writeItems (items : List Json) (whole : AreWhole items) :
    SpellsItems items (items.map write) := by
  match items with
  | [] => rfl
  | item :: items =>
    exact ⟨_, _, .of_core (spells_write item whole.1), spells_writeItems items whole.2, rfl⟩

theorem spells_writeMembers (members : List (String × Json)) (whole : AreWholeMembers members) :
    SpellsMembers members (members.map writeMember) := by
  match members with
  | [] => rfl
  | (key, item) :: members =>
    have member : SpellsMember key (Spells item) (writeMember (key, item)) :=
      ⟨_, _, .of_core (spellsString_writeString key), .of_core (spells_write item whole.1), rfl⟩
    exact ⟨_, _, member, spells_writeMembers members whole.2, rfl⟩

end

theorem isTextOf_text (item : Json) (whole : item.IsWhole) : IsTextOf item item.text := by
  unfold IsTextOf text
  rw [String.toList_ofList]
  exact .of_core (spells_write item whole)

def Printed (text : List Char) : Prop := ∀ c ∈ text, 0x20 ≤ c.toNat

instance (text : List Char) : Decidable (Printed text) := List.decidableBAll _ text

theorem Printed.append {before after : List Char} (first : Printed before)
    (second : Printed after) : Printed (before ++ after) := by
  intro c member
  rcases List.mem_append.mp member with early | late
  · exact first c early
  · exact second c late

theorem Printed.cons {c : Char} {rest : List Char} (first : 0x20 ≤ c.toNat)
    (second : Printed rest) : Printed (c :: rest) := by
  intro d member
  rcases List.mem_cons.mp member with rfl | later
  · exact first
  · exact second d later

theorem printed_escaped (c : Char) : Printed (escaped c) := by
  have hex : ∀ value < 16, 0x20 ≤ (hexDigit value).toNat := by decide
  unfold escaped
  iterate 7
    split
    · decide
  split
  · next control =>
      have high := hex (c.toNat / 16) (by omega)
      have low := hex (c.toNat % 16) (by omega)
      intro d member
      simp only [List.mem_cons, List.not_mem_nil, or_false] at member
      rcases member with rfl | rfl | rfl | rfl | rfl | rfl <;> first | decide | assumption
  · next printed =>
      intro d member
      obtain rfl := List.mem_singleton.mp member
      exact Nat.not_lt.mp printed

theorem printed_writeString (value : String) : Printed (writeString value) := by
  refine .cons (by decide) (.append ?_ (.cons (by decide) nofun))
  intro c member
  obtain ⟨d, _, written⟩ := List.mem_flatMap.mp member
  exact printed_escaped d c written

theorem printed_integer (value : Int) : Printed (toString value).toList := by
  rw [Decimal.toList_toString]
  apply Printed.append
  · split
    · decide
    · nofun
  · intro c member
    have digit := Nat.isDigit_of_mem_toDigits (by decide) (by decide) member
    simp only [Char.isDigit, Bool.and_eq_true, decide_eq_true_eq] at digit
    have least : '0'.toNat ≤ c.toNat := digit.1
    exact Nat.le_trans (by decide) least

mutual

theorem printed_write (item : Json) (whole : item.IsWhole) : Printed item.write := by
  match item with
  | .null => decide
  | .bool true => decide
  | .bool false => decide
  | .number (.int value) => exact printed_integer value
  | .string value => exact printed_writeString value
  | .array items =>
    exact .cons (by decide) (.append (printed_writeItems items whole) (.cons (by decide) nofun))
  | .object members =>
    exact .cons (by decide) (.append (printed_writeMembers members whole) (.cons (by decide) nofun))

theorem printed_writeItems (items : List Json) (whole : AreWhole items) :
    Printed (writeItems items) := by
  match items with
  | [] => nofun
  | [item] => exact printed_write item whole.1
  | item :: other :: items =>
    exact .append (printed_write item whole.1)
      (.cons (by decide) (printed_writeItems (other :: items) whole.2))

theorem printed_writeMembers (members : List (String × Json)) (whole : AreWholeMembers members) :
    Printed (writeMembers members) := by
  match members with
  | [] => nofun
  | [(key, item)] =>
    exact .append (printed_writeString key) (.cons (by decide) (printed_write item whole.1))
  | (key, item) :: other :: members =>
    refine .append (printed_writeString key) (.cons (by decide) ?_)
    exact .append (printed_write item whole.1)
      (.cons (by decide) (printed_writeMembers (other :: members) whole.2))

end

/-- What was written for a value is read as this value. -/
theorem read_text (item : Json) (whole : item.IsWhole) (shallow : item.depth < Reader.depthLimit) :
    read item.text = .ok item.settled :=
  read_spelled (isTextOf_text item whole) shallow

end Marquee.Json
