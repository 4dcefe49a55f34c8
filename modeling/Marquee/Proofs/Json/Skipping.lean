import Marquee.Proofs.Json.Values

/-!
Passing over the text of a value ends right after it, however deep its containers nest.
-/

namespace Marquee.Json

mutual

def turns : Json → Nat
  | .array items => turnsOfItems items + 1
  | .object members => turnsOfMembers members + 1
  | _ => 1

def turnsOfItems : List Json → Nat
  | [] => 1
  | item :: items => turnsOfItems items + item.turns + 1

def turnsOfMembers : List (String × Json) → Nat
  | [] => 1
  | (_, item) :: members => turnsOfMembers members + item.turns + 1

end

namespace Reader

theorem skipScalar_spelled {item : Json} {core rest : List Char} (spelled : Spells item core)
    (closes : Closes rest) (flat : item.depth = 0) :
    skipScalar (core ++ rest) = .ok (some rest) := by
  match item, spelled with
  | .null, spelled =>
    obtain rfl : core = ['n', 'u', 'l', 'l'] := spelled
    rfl
  | .bool true, spelled =>
    obtain rfl : core = ['t', 'r', 'u', 'e'] := spelled
    rfl
  | .bool false, spelled =>
    obtain rfl : core = ['f', 'a', 'l', 's', 'e'] := spelled
    rfl
  | .number (.int value), ⟨_, written⟩ =>
    rw [written]
    exact skipScalar_integer value closes
  | .string value, ⟨chars, spelled, written⟩ =>
    have skipped := skipCharacters_spelled spelled rest
    rw [written, List.cons_append, List.append_assoc, List.singleton_append]
    simp [skipScalar, skipped, Functor.map, Except.map]
  | .array _, _ => cases flat
  | .object _, _ => cases flat

theorem skip_flat {item : Json} {core before rest : List Char} (spelled : Spells item core)
    (flat : item.depth = 0) (blank : Blank before) (closes : Closes rest) (fuel : Nat)
    (inside : List Container) :
    skip (fuel + 1) .value inside (before ++ (core ++ rest)) = skip fuel .closed inside rest := by
  have skipped := skipScalar_spelled spelled closes flat
  simp [skip, skipSpace_spelled spelled blank, skipped, bind, Except.bind]

def Container.opening : Container → Char
  | .list => '['
  | .object => '\x7b'

theorem skip_open {before : List Char} (blank : Blank before) (container : Container)
    (rest : List Char) (fuel : Nat) (inside : List Container) :
    skip (fuel + 1) .value inside (before ++ container.opening :: rest) =
      skip fuel .opened (container :: inside) rest := by
  cases container <;>
    simp [Container.opening, skip, skipSpace_blank blank, skipSpace_cons, skipScalar, isSpace,
      bind, Except.bind, Char.isDigit]

theorem isSpace_closing (container : Container) : isSpace container.closing = false := by
  cases container <;> rfl

theorem skip_opened_end {blanks : List Char} (blank : Blank blanks) (container : Container)
    (rest : List Char) (fuel : Nat) (inside : List Container) :
    skip (fuel + 1) .opened (container :: inside) (blanks ++ container.closing :: rest) =
      skip fuel .closed inside rest := by
  simp [skip, skipSpace_blank blank, skipSpace_cons (isSpace_closing container)]

theorem skip_closed_end {blanks : List Char} (blank : Blank blanks) (container : Container)
    (rest : List Char) (fuel : Nat) (inside : List Container) :
    skip (fuel + 1) .closed (container :: inside) (blanks ++ container.closing :: rest) =
      skip fuel .closed inside rest := by
  have noComma : container.closing ≠ ',' := by cases container <;> decide
  simp [skip, skipSpace_blank blank, skipSpace_cons (isSpace_closing container), noComma]

theorem skip_opened_item (container : Container) {text start : List Char} {c : Char}
    {more : List Char} (begun : skipSpace text = c :: more) (other : c ≠ container.closing)
    (item : skipToItem container (c :: more) = .ok start) (fuel : Nat) (inside : List Container) :
    skip (fuel + 1) .opened (container :: inside) text =
      skip fuel .value (container :: inside) start := by
  simp [skip, begun, other, item, bind, Except.bind]

theorem skip_comma (container : Container) {blanks more start : List Char} (blank : Blank blanks)
    (item : skipToItem container more = .ok start) (fuel : Nat) (inside : List Container) :
    skip (fuel + 1) .closed (container :: inside) (blanks ++ ',' :: more) =
      skip fuel .value (container :: inside) start := by
  simp [skip, skipSpace_blank blank, skipSpace_cons (c := ',') rfl, item, bind, Except.bind]

theorem skipKey_spelled {before chars behind : List Char} {key : String} (ahead : Blank before)
    (name : SpellsChars key.toList chars) (blank : Blank behind) (rest : List Char) :
    skipKey (before ++ '"' :: (chars ++ '"' :: (behind ++ ':' :: rest))) = .ok rest := by
  have skipped := skipCharacters_spelled name (behind ++ ':' :: rest)
  simp [skipKey, skipSpace_blank ahead, skipSpace_cons (c := '"') rfl, skipped,
    skipSpace_blank blank, skipSpace_cons (c := ':') rfl, bind, Except.bind]

-- The fuel is counted exactly. A value takes its `turns`, and what is left goes on in the container
-- around it; that is what carries the induction through the containers.
mutual

theorem skip_spelled (item : Json) {core before rest : List Char} (spelled : Spells item core)
    (blank : Blank before) (closes : Closes rest) (fuel : Nat) (inside : List Container) :
    skip (fuel + item.turns) .value inside (before ++ (core ++ rest)) =
      skip fuel .closed inside rest := by
  match item with
  | .null => exact skip_flat spelled rfl blank closes fuel inside
  | .bool _ => exact skip_flat spelled rfl blank closes fuel inside
  | .number _ => exact skip_flat spelled rfl blank closes fuel inside
  | .string _ => exact skip_flat spelled rfl blank closes fuel inside
  | .array items =>
    obtain ⟨pieces, inner, each, separated, rfl⟩ := spelled
    have opened := skip_open blank .list (inner ++ ']' :: rest)
      (fuel + turnsOfItems items) inside
    have skipped := skip_list items each separated rest fuel inside
    simp only [List.cons_append, List.append_assoc, List.nil_append] at opened ⊢
    exact opened.trans skipped
  | .object members =>
    obtain ⟨pieces, inner, each, separated, rfl⟩ := spelled
    have opened := skip_open blank .object (inner ++ '\x7d' :: rest)
      (fuel + turnsOfMembers members) inside
    have skipped := skip_object members each separated rest fuel inside
    simp only [List.cons_append, List.append_assoc, List.nil_append] at opened ⊢
    exact opened.trans skipped

theorem skip_list (items : List Json) {pieces : List (List Char)} {inner : List Char}
    (each : SpellsItems items pieces) (separated : Separated pieces inner) (rest : List Char)
    (fuel : Nat) (inside : List Container) :
    skip (fuel + turnsOfItems items) .opened (.list :: inside) (inner ++ ']' :: rest) =
      skip fuel .closed inside rest := by
  match items, each with
  | [], each =>
    obtain rfl : pieces = [] := each
    exact skip_opened_end separated .list rest fuel inside
  | item :: items, ⟨piece, others, padded, remaining, same⟩ =>
    subst same
    obtain ⟨before, core, after, ahead, spelled, behind, rfl⟩ := padded
    obtain rfl : inner = before ++ (core ++ after) ++ others.flatMap (',' :: ·) := separated
    have closes := (closes_list rest).separated others |>.after_blank behind
    have skipped := skip_spelled item spelled blank_nil closes (fuel + turnsOfItems items)
      (.list :: inside)
    have later := skip_items items remaining behind rest fuel inside
    have begun := skipSpace_spelled spelled ahead
      (after ++ (others.flatMap (',' :: ·) ++ ']' :: rest))
    obtain ⟨c, tail, rfl, begins⟩ := begins_spelled spelled
    simp only [List.cons_append, List.append_assoc, List.nil_append, turnsOfItems,
      ← Nat.add_assoc] at begun skipped ⊢
    rw [skip_opened_item .list begun begins.clear.2.2.1 rfl, skipped, later]

theorem skip_items (items : List Json) {pieces : List (List Char)} {blanks : List Char}
    (each : SpellsItems items pieces) (blank : Blank blanks) (rest : List Char) (fuel : Nat)
    (inside : List Container) :
    skip (fuel + turnsOfItems items) .closed (.list :: inside)
      (blanks ++ (pieces.flatMap (',' :: ·) ++ ']' :: rest)) = skip fuel .closed inside rest := by
  match items, each with
  | [], each =>
    obtain rfl : pieces = [] := each
    exact skip_closed_end blank .list rest fuel inside
  | item :: items, ⟨piece, others, padded, remaining, same⟩ =>
    subst same
    obtain ⟨before, core, after, ahead, spelled, behind, rfl⟩ := padded
    have closes := (closes_list rest).separated others |>.after_blank behind
    have skipped := skip_spelled item spelled ahead closes (fuel + turnsOfItems items)
      (.list :: inside)
    have later := skip_items items remaining behind rest fuel inside
    simp only [List.flatMap_cons, List.cons_append, List.append_assoc, turnsOfItems,
      ← Nat.add_assoc]
    rw [skip_comma .list blank rfl, skipped, later]

theorem skip_object (members : List (String × Json)) {pieces : List (List Char)}
    {inner : List Char} (each : SpellsMembers members pieces) (separated : Separated pieces inner)
    (rest : List Char) (fuel : Nat) (inside : List Container) :
    skip (fuel + turnsOfMembers members) .opened (.object :: inside) (inner ++ '\x7d' :: rest) =
      skip fuel .closed inside rest := by
  match members, each with
  | [], each =>
    obtain rfl : pieces = [] := each
    exact skip_opened_end separated .object rest fuel inside
  | (key, item) :: members, ⟨piece, others, member, remaining, same⟩ =>
    subst same
    obtain ⟨before, chars, behind, leading, core, trailing, ahead, name, colon, indent, spelled,
      after, rfl⟩ := member.parts
    obtain rfl : inner = _ ++ others.flatMap (',' :: ·) := separated
    have closes := (closes_object rest).separated others |>.after_blank after
    have skipped := skip_spelled item spelled indent closes (fuel + turnsOfMembers members)
      (.object :: inside)
    have later := skip_members members remaining after rest fuel inside
    have begun (more : List Char) : skipSpace (before ++ '"' :: more) = '"' :: more :=
      (skipSpace_blank ahead _).trans (skipSpace_cons rfl more)
    have keyed (more : List Char) :
        skipToItem .object ('"' :: (chars ++ '"' :: (behind ++ ':' :: more))) = .ok more :=
      skipKey_spelled blank_nil name colon more
    simp only [List.cons_append, List.append_assoc, turnsOfMembers, ← Nat.add_assoc]
    rw [skip_opened_item .object (begun _) (by decide) (keyed _), skipped, later]

theorem skip_members (members : List (String × Json)) {pieces : List (List Char)}
    {blanks : List Char} (each : SpellsMembers members pieces) (blank : Blank blanks)
    (rest : List Char) (fuel : Nat) (inside : List Container) :
    skip (fuel + turnsOfMembers members) .closed (.object :: inside)
      (blanks ++ (pieces.flatMap (',' :: ·) ++ '\x7d' :: rest)) =
      skip fuel .closed inside rest := by
  match members, each with
  | [], each =>
    obtain rfl : pieces = [] := each
    exact skip_closed_end blank .object rest fuel inside
  | (key, item) :: members, ⟨piece, others, member, remaining, same⟩ =>
    subst same
    obtain ⟨before, chars, behind, leading, core, trailing, ahead, name, colon, indent, spelled,
      after, rfl⟩ := member.parts
    have closes := (closes_object rest).separated others |>.after_blank after
    have skipped := skip_spelled item spelled indent closes (fuel + turnsOfMembers members)
      (.object :: inside)
    have later := skip_members members remaining after rest fuel inside
    simp only [List.flatMap_cons, List.cons_append, List.append_assoc, turnsOfMembers,
      ← Nat.add_assoc]
    rw [skip_comma .object blank (skipKey_spelled ahead name colon _), skipped, later]

end

end Reader

theorem length_separated {pieces : List (List Char)} {inner : List Char}
    (separated : Separated pieces inner) :
    (pieces.flatMap (',' :: ·)).length ≤ inner.length + 1 := by
  cases pieces with
  | nil => exact Nat.zero_le _
  | cons first others =>
      obtain rfl : inner = first ++ others.flatMap (',' :: ·) := separated
      simp only [List.flatMap_cons, List.length_append, List.length_cons]
      omega

mutual

/-- A character takes at most three turns. -/
theorem turns_le (item : Json) {core : List Char} (spelled : Spells item core) :
    item.turns ≤ 3 * core.length := by
  have flat (one : item.turns = 1) : item.turns ≤ 3 * core.length := by
    obtain ⟨c, tail, rfl, -⟩ := begins_spelled spelled
    simp only [one, List.length_cons]
    omega
  match item with
  | .null => exact flat rfl
  | .bool _ => exact flat rfl
  | .number _ => exact flat rfl
  | .string _ => exact flat rfl
  | .array items =>
    obtain ⟨pieces, inner, each, separated, rfl⟩ := spelled
    have bound := turnsOfItems_le items each
    have joined := length_separated separated
    simp only [turns, List.length_cons, List.length_append, List.length_nil]
    omega
  | .object members =>
    obtain ⟨pieces, inner, each, separated, rfl⟩ := spelled
    have bound := turnsOfMembers_le members each
    have joined := length_separated separated
    simp only [turns, List.length_cons, List.length_append, List.length_nil]
    omega

theorem turnsOfItems_le (items : List Json) {pieces : List (List Char)}
    (each : SpellsItems items pieces) :
    turnsOfItems items ≤ 3 * (pieces.flatMap (',' :: ·)).length + 1 := by
  match items, each with
  | [], _ => exact Nat.le_add_left 1 _
  | item :: items, ⟨piece, others, ⟨before, core, after, _, spelled, _, whole⟩, remaining, same⟩ =>
    subst same whole
    have first := turns_le item spelled
    have later := turnsOfItems_le items remaining
    simp only [turnsOfItems, List.flatMap_cons, List.length_append, List.length_cons]
    omega

theorem turnsOfMembers_le (members : List (String × Json)) {pieces : List (List Char)}
    (each : SpellsMembers members pieces) :
    turnsOfMembers members ≤ 3 * (pieces.flatMap (',' :: ·)).length + 1 := by
  match members, each with
  | [], _ => exact Nat.le_add_left 1 _
  | (key, item) :: members, ⟨piece, others, member, remaining, same⟩ =>
    subst same
    obtain ⟨before, chars, behind, leading, core, trailing, _, _, _, _, spelled, _, rfl⟩ :=
      member.parts
    have first := turns_le item spelled
    have later := turnsOfMembers_le members remaining
    simp only [turnsOfMembers, List.flatMap_cons, List.length_append, List.length_cons]
    omega

end

theorem Reader.skipValue_spelled {item : Json} {core before rest : List Char}
    (spelled : Spells item core) (blank : Blank before) (closes : Closes rest) :
    skipValue (before ++ (core ++ rest)) = .ok rest := by
  have bound := turns_le item spelled
  obtain ⟨left, enough⟩ : ∃ left,
      3 * (before ++ (core ++ rest)).length + 3 = left + 1 + item.turns := by
    refine ⟨3 * (before ++ (core ++ rest)).length + 2 - item.turns, ?_⟩
    simp only [List.length_append]
    omega
  rw [skipValue, enough, skip_spelled item spelled blank closes]
  rfl

end Marquee.Json
