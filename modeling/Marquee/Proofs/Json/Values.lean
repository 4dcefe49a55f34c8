import Marquee.Proofs.Json.Numbers
import Marquee.Proofs.Json.Strings

/-!
Reading a text gives back the value that it spells, as long as its containers do not nest too
deeply: whatever blanks stand between its parts, and with the last one of several members of one
key.
-/

namespace Marquee.Json

def Begins (c : Char) : Json → Prop
  | .null => c = 'n'
  | .bool true => c = 't'
  | .bool false => c = 'f'
  | .number _ => c = '-' ∨ c.isDigit = true
  | .string _ => c = '"'
  | .array _ => c = '['
  | .object _ => c = '\x7b'

theorem begins_spelled {item : Json} {core : List Char} (spelled : Spells item core) :
    ∃ c tail, core = c :: tail ∧ Begins c item := by
  match item, spelled with
  | .null, spelled => exact ⟨_, _, spelled, rfl⟩
  | .bool true, spelled => exact ⟨_, _, spelled, rfl⟩
  | .bool false, spelled => exact ⟨_, _, spelled, rfl⟩
  | .number (.int value), ⟨_, written⟩ =>
    obtain ⟨c, tail, same, first⟩ := Decimal.head_toString value
    exact ⟨c, tail, written.trans same, first⟩
  | .string _, ⟨_, _, written⟩ => exact ⟨_, _, written, rfl⟩
  | .array _, ⟨_, _, _, _, written⟩ => exact ⟨_, _, written, rfl⟩
  | .object _, ⟨_, _, _, _, written⟩ => exact ⟨_, _, written, rfl⟩

theorem Begins.clear {c : Char} {item : Json} (begins : Begins c item) :
    Reader.isSpace c = false ∧ c ≠ ',' ∧ c ≠ ']' ∧ c ≠ '\x7d' := by
  have fixed : ∀ d ∈ ['n', 't', 'f', '-', '"', '[', '\x7b'],
      Reader.isSpace d = false ∧ d ≠ ',' ∧ d ≠ ']' ∧ d ≠ '\x7d' := by
    simp [Reader.isSpace]
  match item, begins with
  | .null, same => exact fixed c (by simp [show c = 'n' from same])
  | .bool true, same => exact fixed c (by simp [show c = 't' from same])
  | .bool false, same => exact fixed c (by simp [show c = 'f' from same])
  | .number _, .inl same => exact fixed c (by simp [same])
  | .number _, .inr digit =>
    have other (d : Char) (noDigit : d.isDigit = false) : c ≠ d := by
      rintro rfl
      rw [digit] at noDigit
      cases noDigit
    refine ⟨?_, other ',' rfl, other ']' rfl, other '\x7d' rfl⟩
    simp [Reader.isSpace, other ' ' rfl, other '\n' rfl, other '\t' rfl, other '\r' rfl]
  | .string _, same => exact fixed c (by simp [show c = '"' from same])
  | .array _, same => exact fixed c (by simp [show c = '[' from same])
  | .object _, same => exact fixed c (by simp [show c = '\x7b' from same])

theorem isSpace_of_blank {blanks : List Char} (blank : Blank blanks) :
    ∀ c ∈ blanks, Reader.isSpace c = true := by
  intro c member
  rcases blank c member with rfl | rfl | rfl | rfl <;> rfl

theorem skipSpace_blank {blanks : List Char} (blank : Blank blanks) (rest : List Char) :
    Reader.skipSpace (blanks ++ rest) = Reader.skipSpace rest :=
  List.dropWhile_append_of_pos (isSpace_of_blank blank)

theorem skipSpace_cons {c : Char} (printed : Reader.isSpace c = false) (rest : List Char) :
    Reader.skipSpace (c :: rest) = c :: rest := by
  simp [Reader.skipSpace, printed]

theorem skipSpace_spelled {item : Json} {core before : List Char} (spelled : Spells item core)
    (blank : Blank before) (rest : List Char) :
    Reader.skipSpace (before ++ (core ++ rest)) = core ++ rest := by
  obtain ⟨c, tail, rfl, begins⟩ := begins_spelled spelled
  rw [skipSpace_blank blank]
  exact skipSpace_cons begins.clear.1 (tail ++ rest)

theorem Closes.after_blank {blanks rest : List Char} (blank : Blank blanks) (closes : Closes rest) :
    Closes (blanks ++ rest) := by
  cases blanks with
  | nil => exact closes
  | cons c blanks =>
      intro d same
      obtain rfl := Option.some.inj same
      rcases blank c List.mem_cons_self with space | feed | tab | carriage
      · exact Or.inl space
      · exact Or.inr (Or.inl feed)
      · exact Or.inr (Or.inr (Or.inl tab))
      · exact Or.inr (Or.inr (Or.inr (Or.inl carriage)))

theorem closes_comma (rest : List Char) : Closes (',' :: rest) := by
  rintro c ⟨⟩
  simp

theorem closes_list (rest : List Char) : Closes (']' :: rest) := by
  rintro c ⟨⟩
  simp

theorem closes_object (rest : List Char) : Closes ('\x7d' :: rest) := by
  rintro c ⟨⟩
  simp

/-- A member taken apart: blanks, the characters of its key, blanks before the colon, and its value
between blanks. -/
theorem SpellsMember.parts {key : String} {item : Json} {piece : List Char}
    (member : SpellsMember key (Spells item) piece) :
    ∃ before chars behind leading core trailing, Blank before ∧ SpellsChars key.toList chars ∧
      Blank behind ∧ Blank leading ∧ Spells item core ∧ Blank trailing ∧
      piece = before ++ '"' :: (chars ++ '"' :: (behind ++ ':' ::
        (leading ++ (core ++ trailing)))) := by
  obtain ⟨_, _, ⟨before, _, behind, ahead, ⟨chars, name, rfl⟩, blank, rfl⟩,
    ⟨leading, core, trailing, indent, spelled, after, rfl⟩, rfl⟩ := member
  refine ⟨before, chars, behind, leading, core, trailing, ahead, name, blank, indent, spelled,
    after, ?_⟩
  simp only [List.cons_append, List.append_assoc, List.nil_append]

/-- After an item there is a comma or the end of its container. -/
theorem Closes.separated {ending : List Char} (closes : Closes ending)
    (pieces : List (List Char)) : Closes (pieces.flatMap (',' :: ·) ++ ending) := by
  cases pieces with
  | nil => exact closes
  | cons piece pieces => exact closes_comma _

namespace Reader

theorem scalar_spelled {item : Json} {core rest : List Char} (spelled : Spells item core)
    (closes : Closes rest) (flat : item.depth = 0) :
    scalar (core ++ rest) = .ok (item, rest) := by
  match item, spelled with
  | .null, spelled =>
    obtain rfl : core = ['n', 'u', 'l', 'l'] := spelled
    rfl
  | .bool true, spelled =>
    obtain rfl : core = ['t', 'r', 'u', 'e'] := spelled
    rfl
  | .bool false, spelled =>
    obtain rfl : core = ['f', 'a', 'l', 's', 'e'] := spelled
    rfl
  | .number (.int value), ⟨word, written⟩ =>
    rw [written]
    exact scalar_integer word closes
  | .string value, ⟨chars, spelled, written⟩ =>
    have read := string_spelled spelled rest
    rw [written, List.cons_append, List.append_assoc, List.singleton_append]
    simp [scalar, read, bind, Except.bind]
  | .array _, _ => cases flat
  | .object _, _ => cases flat

theorem value_scalar {item : Json} {core before rest : List Char} {limit : Nat}
    (spelled : Spells item core) (flat : item.depth = 0) (blank : Blank before)
    (closes : Closes rest) : value (limit + 1) (before ++ (core ++ rest)) = .ok (item, rest) := by
  have read := scalar_spelled spelled closes flat
  obtain ⟨c, tail, rfl, begins⟩ := begins_spelled spelled
  rw [value, skipSpace_spelled spelled blank]
  split
  · next same =>
      obtain ⟨rfl, -⟩ := List.cons.inj same
      match item, begins with
      | .number _, .inl same => cases same
      | .number _, .inr digit => cases digit
      | .array _, _ => cases flat
  · next same =>
      obtain ⟨rfl, -⟩ := List.cons.inj same
      match item, begins with
      | .number _, .inl same => cases same
      | .number _, .inr digit => cases digit
      | .object _, _ => cases flat
  · exact read

theorem nextItem_end {blanks : List Char} (blank : Blank blanks) (first : Bool)
    (rest : List Char) :
    nextItem first (blanks ++ ']' :: rest) = .ok none ∧
      (skipSpace (blanks ++ ']' :: rest)).drop 1 = rest := by
  rw [nextItem, skipSpace_blank blank]
  exact ⟨rfl, rfl⟩

theorem nextItem_first {item : Json} {core before : List Char} (spelled : Spells item core)
    (blank : Blank before) (rest : List Char) :
    nextItem true (before ++ (core ++ rest)) = .ok (some (core ++ rest)) := by
  rw [nextItem, skipSpace_spelled spelled blank]
  obtain ⟨c, tail, rfl, begins⟩ := begins_spelled spelled
  simp [begins.clear.2.2.1]

theorem nextItem_comma {item : Json} {core blanks before : List Char} (spelled : Spells item core)
    (ahead : Blank blanks) (blank : Blank before) (rest : List Char) :
    nextItem false (blanks ++ ',' :: (before ++ (core ++ rest))) = .ok (some (core ++ rest)) := by
  rw [nextItem, skipSpace_blank ahead, skipSpace_cons (by rfl)]
  simp only [skipSpace_spelled spelled blank]
  obtain ⟨c, tail, rfl, begins⟩ := begins_spelled spelled
  simp [begins.clear.2.2.1]

theorem nextKey_end {blanks : List Char} (blank : Blank blanks) (first : Bool)
    (rest : List Char) :
    nextKey first (blanks ++ '\x7d' :: rest) = .ok none ∧
      (skipSpace (blanks ++ '\x7d' :: rest)).drop 1 = rest := by
  rw [nextKey, skipSpace_blank blank]
  exact ⟨rfl, rfl⟩

theorem nextKey_first {before : List Char} (blank : Blank before) (rest : List Char) :
    nextKey true (before ++ '"' :: rest) = .ok (some rest) := by
  rw [nextKey, skipSpace_blank blank]
  rfl

theorem nextKey_comma {blanks before : List Char} (ahead : Blank blanks) (blank : Blank before)
    (rest : List Char) :
    nextKey false (blanks ++ ',' :: (before ++ '"' :: rest)) = .ok (some rest) := by
  rw [nextKey, skipSpace_blank ahead, skipSpace_cons (by rfl)]
  simp only [skipSpace_blank blank, skipSpace_cons (c := '"') rfl]
  rfl

theorem colon_blank {blanks : List Char} (blank : Blank blanks) (rest : List Char) :
    colon (blanks ++ ':' :: rest) = .ok rest := by
  rw [colon, skipSpace_blank blank]
  rfl

/-- There are at most as many pieces as characters, the one after them included. -/
theorem length_pieces_le {pieces : List (List Char)} {inner : List Char}
    (separated : Separated pieces inner) (ending : Char) (rest : List Char) :
    pieces.length ≤ (inner ++ ending :: rest).length := by
  have commas (others : List (List Char)) :
      others.length ≤ (others.flatMap (',' :: ·)).length := by
    induction others with
    | nil => exact Nat.le_refl 0
    | cons piece others ih =>
        simp only [List.length_cons, List.flatMap_cons, List.length_append]
        omega
  cases pieces with
  | nil => exact Nat.zero_le _
  | cons piece others =>
      have all := commas others
      obtain rfl : inner = piece ++ others.flatMap (',' :: ·) := separated
      simp only [List.length_append, List.length_cons]
      omega

theorem items_item {read : List Char → Except Fault (Json × List Char)} {first : Bool}
    {text start more : List Char} {item : Json} (next : nextItem first text = .ok (some start))
    (found : read start = .ok (item, more)) {others : List Json} {fuel : Nat} {rest : List Char}
    (later : Reader.items read fuel false more = .ok (others, rest)) :
    Reader.items read (fuel + 1) first text = .ok (item :: others, rest) := by
  simp [Reader.items, next, found, later, bind, Except.bind]

theorem members_member {read : List Char → Except Fault (Json × List Char)} {first : Bool}
    {text chars behind written more : List Char} {key : String} {item : Json}
    {found result : List (String × Json)}
    (next : nextKey first text = .ok (some (chars ++ '"' :: (behind ++ ':' :: written))))
    (name : SpellsChars key.toList chars) (blank : Blank behind)
    (value : read written = .ok (item, more)) {fuel : Nat} {rest : List Char}
    (later : Reader.members read fuel false (put key item found) more = .ok (result, rest)) :
    Reader.members read (fuel + 1) first found text = .ok (result, rest) := by
  have named := string_spelled name (behind ++ ':' :: written)
  have colon := colon_blank blank written
  simp [Reader.members, next, named, colon, value, later, bind, Except.bind]

-- Each container has two lemmas: its first piece stands right after the bracket, and every other
-- one after blanks and a comma.
mutual

theorem value_spelled (item : Json) {core before rest : List Char} {limit : Nat}
    (spelled : Spells item core) (shallow : item.depth < limit) (blank : Blank before)
    (closes : Closes rest) :
    value limit (before ++ (core ++ rest)) = .ok (item.settled, rest) := by
  match item, limit with
  | _, 0 => exact absurd shallow (Nat.not_lt_zero _)
  | .null, _ + 1 => exact value_scalar spelled rfl blank closes
  | .bool _, _ + 1 => exact value_scalar spelled rfl blank closes
  | .number _, _ + 1 => exact value_scalar spelled rfl blank closes
  | .string _, _ + 1 => exact value_scalar spelled rfl blank closes
  | .array items, limit + 1 =>
    have begun := skipSpace_spelled spelled blank rest
    obtain ⟨pieces, inner, each, separated, rfl⟩ := spelled
    have deep : depthOfItems items < limit := Nat.lt_of_succ_lt_succ shallow
    have read := list_spelled items each separated deep rest
    simp only [List.cons_append, List.append_assoc, List.nil_append] at begun
    simp only [value, List.cons_append, List.append_assoc, List.nil_append, begun]
    rw [if_neg (by omega), read]
    rfl
  | .object members, limit + 1 =>
    have begun := skipSpace_spelled spelled blank rest
    obtain ⟨pieces, inner, each, separated, rfl⟩ := spelled
    have deep : depthOfMembers members < limit := Nat.lt_of_succ_lt_succ shallow
    have read := object_spelled members each separated deep rest
    simp only [List.cons_append, List.append_assoc, List.nil_append] at begun
    simp only [value, List.cons_append, List.append_assoc, List.nil_append, begun]
    rw [if_neg (by omega), read]
    rfl

theorem list_spelled (items : List Json) {pieces : List (List Char)} {inner : List Char}
    {limit : Nat} (each : SpellsItems items pieces) (separated : Separated pieces inner)
    (shallow : depthOfItems items < limit) (rest : List Char) :
    Reader.items (value limit) ((inner ++ ']' :: rest).length + 1) true (inner ++ ']' :: rest) =
      .ok (settledItems items, rest) := by
  have room := length_pieces_le separated ']' rest
  match items, each with
  | [], each =>
    obtain rfl : pieces = [] := each
    obtain ⟨ended, dropped⟩ := nextItem_end separated true rest
    simp [Reader.items, ended, dropped, bind, Except.bind, settledItems]
  | item :: items, ⟨piece, others, padded, remaining, same⟩ =>
    subst same
    obtain ⟨before, core, after, ahead, spelled, behind, rfl⟩ := padded
    obtain rfl : inner = before ++ (core ++ after) ++ others.flatMap (',' :: ·) := separated
    simp only [depthOfItems, Nat.max_lt] at shallow
    have closes := (closes_list rest).separated others |>.after_blank behind
    have found := value_spelled item spelled shallow.1 blank_nil closes
    have next := nextItem_first spelled ahead
      (after ++ (others.flatMap (',' :: ·) ++ ']' :: rest))
    have later := items_spelled items remaining shallow.2 behind rest room
    simp only [List.append_assoc, List.nil_append] at found next later ⊢
    exact items_item next found later

theorem items_spelled (items : List Json) {pieces : List (List Char)} {blanks : List Char}
    {limit fuel : Nat} (each : SpellsItems items pieces) (shallow : depthOfItems items < limit)
    (blank : Blank blanks) (rest : List Char) (room : pieces.length < fuel) :
    Reader.items (value limit) fuel false (blanks ++ (pieces.flatMap (',' :: ·) ++ ']' :: rest)) =
      .ok (settledItems items, rest) := by
  match items, each, fuel with
  | _, _, 0 => exact absurd room (Nat.not_lt_zero _)
  | [], each, fuel + 1 =>
    obtain rfl : pieces = [] := each
    obtain ⟨ended, dropped⟩ := nextItem_end blank false rest
    simp [Reader.items, ended, dropped, bind, Except.bind, settledItems]
  | item :: items, ⟨piece, others, padded, remaining, same⟩, fuel + 1 =>
    subst same
    obtain ⟨before, core, after, ahead, spelled, behind, rfl⟩ := padded
    simp only [depthOfItems, Nat.max_lt] at shallow
    have closes := (closes_list rest).separated others |>.after_blank behind
    have found := value_spelled item spelled shallow.1 blank_nil closes
    have next := nextItem_comma spelled blank ahead
      (after ++ (others.flatMap (',' :: ·) ++ ']' :: rest))
    have later := items_spelled items remaining shallow.2 behind rest (Nat.lt_of_succ_lt_succ room)
    simp only [List.flatMap_cons, List.cons_append, List.append_assoc, List.nil_append]
      at found next later ⊢
    exact items_item next found later

theorem object_spelled (members : List (String × Json)) {pieces : List (List Char)}
    {inner : List Char} {limit : Nat} (each : SpellsMembers members pieces)
    (separated : Separated pieces inner) (shallow : depthOfMembers members < limit)
    (rest : List Char) :
    Reader.members (value limit) ((inner ++ '\x7d' :: rest).length + 1) true []
      (inner ++ '\x7d' :: rest) = .ok (settledMembers [] members, rest) := by
  have room := length_pieces_le separated '\x7d' rest
  match members, each with
  | [], each =>
    obtain rfl : pieces = [] := each
    obtain ⟨ended, dropped⟩ := nextKey_end separated true rest
    simp [Reader.members, ended, dropped, bind, Except.bind, settledMembers]
  | (key, item) :: members, ⟨piece, others, member, remaining, same⟩ =>
    subst same
    obtain ⟨before, chars, behind, leading, core, trailing, ahead, name, blank, indent, spelled,
      after, rfl⟩ := member.parts
    obtain rfl : inner = _ ++ others.flatMap (',' :: ·) := separated
    simp only [depthOfMembers, Nat.max_lt] at shallow
    have closes := (closes_object rest).separated others |>.after_blank after
    have found := value_spelled item spelled shallow.1 indent closes
    have later := members_spelled members remaining shallow.2 after (put key item.settled []) rest
      room
    simp only [List.cons_append, List.append_assoc] at later ⊢
    exact members_member (nextKey_first ahead _) name blank found later

theorem members_spelled (members : List (String × Json)) {pieces : List (List Char)}
    {blanks : List Char} {limit fuel : Nat} (each : SpellsMembers members pieces)
    (shallow : depthOfMembers members < limit) (blank : Blank blanks)
    (known : List (String × Json)) (rest : List Char) (room : pieces.length < fuel) :
    Reader.members (value limit) fuel false known
      (blanks ++ (pieces.flatMap (',' :: ·) ++ '\x7d' :: rest)) =
      .ok (settledMembers known members, rest) := by
  match members, each, fuel with
  | _, _, 0 => exact absurd room (Nat.not_lt_zero _)
  | [], each, fuel + 1 =>
    obtain rfl : pieces = [] := each
    obtain ⟨ended, dropped⟩ := nextKey_end blank false rest
    simp [Reader.members, ended, dropped, bind, Except.bind, settledMembers]
  | (key, item) :: members, ⟨piece, others, member, remaining, same⟩, fuel + 1 =>
    subst same
    obtain ⟨before, chars, behind, leading, core, trailing, ahead, name, colon, indent, spelled,
      after, rfl⟩ := member.parts
    simp only [depthOfMembers, Nat.max_lt] at shallow
    have closes := (closes_object rest).separated others |>.after_blank after
    have found := value_spelled item spelled shallow.1 indent closes
    have later := members_spelled members remaining shallow.2 after (put key item.settled known)
      rest (Nat.lt_of_succ_lt_succ room)
    simp only [List.flatMap_cons, List.cons_append, List.append_assoc]
    exact members_member (nextKey_comma blank ahead _) name colon found later

end

end Reader

/-- A text is read as the value that it spells, if at most 127 containers are inside each other. -/
theorem read_spelled {item : Json} {text : String} (spelled : IsTextOf item text)
    (shallow : item.depth < Reader.depthLimit) : read text = .ok item.settled := by
  obtain ⟨before, core, after, ahead, spelled, behind, written⟩ := spelled
  have found := Reader.value_spelled item spelled shallow ahead
    (closes_nil.after_blank behind)
  have ended : Reader.skipSpace (after ++ []) = [] := skipSpace_blank behind []
  rw [List.append_nil] at found ended
  simp [read, written, found, Reader.finish, ended, bind, Except.bind]

end Marquee.Json
