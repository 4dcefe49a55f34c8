import Marquee.Json.Skip
import Marquee.Proofs.Json.Spelling

/-!
Reading a written string gives back its characters, whichever escapes it uses, and passing over one
ends at the same place.
-/

namespace Marquee.Json.Reader

theorem hexDigit?_of_hexDigit {c : Char} {value : Nat} (digit : HexDigit c value) :
    hexDigit? c = some value := by
  have all : ∀ value < 16, hexDigit? value.digitChar = some value ∧
      hexDigit? value.digitChar.toUpper = some value := by decide
  obtain ⟨bound, rfl | rfl⟩ := digit
  · exact (all value bound).1
  · exact (all value bound).2

theorem hexUnit_of_hexUnit {digits : List Char} {unit : Nat} (names : HexUnit digits unit)
    (rest : List Char) : hexUnit (digits ++ rest) = .ok unit ∧ (digits ++ rest).drop 4 = rest := by
  obtain ⟨a, b, c, d, i, j, k, l, rfl, first, second, third, fourth, rfl⟩ := names
  refine ⟨?_, rfl⟩
  simp [hexUnit, fourDigits?, hexDigit?_of_hexDigit first, hexDigit?_of_hexDigit second,
    hexDigit?_of_hexDigit third, hexDigit?_of_hexDigit fourth]

theorem length_of_hexUnit {digits : List Char} {unit : Nat} (names : HexUnit digits unit) :
    digits.length = 4 := by
  obtain ⟨a, b, c, d, _, _, _, _, rfl, _⟩ := names
  rfl

/-- The characters that belong to an escape are passed over one by one. -/
theorem characters_used (found used rest : List Char) :
    characters found used.length (used ++ rest) = characters found 0 rest := by
  induction used with
  | nil => rfl
  | cons c used ih =>
      simp only [List.length_cons, List.cons_append, characters]
      exact ih

theorem skipCharacters_used (used rest : List Char) :
    skipCharacters used.length (used ++ rest) = skipCharacters 0 rest := by
  induction used with
  | nil => rfl
  | cons c used ih =>
      simp only [List.length_cons, List.cons_append, skipCharacters]
      exact ih

theorem letterEscape?_of_listed {letter c : Char} (listed : (letter, c) ∈ shortEscapes) :
    letterEscape? letter = some c ∧ letter ≠ 'u' := by
  simp only [shortEscapes, List.mem_cons, Prod.mk.injEq, List.not_mem_nil, or_false] at listed
  rcases listed with ⟨rfl, rfl⟩ | ⟨rfl, rfl⟩ | ⟨rfl, rfl⟩ | ⟨rfl, rfl⟩ | ⟨rfl, rfl⟩ | ⟨rfl, rfl⟩ |
    ⟨rfl, rfl⟩ | ⟨rfl, rfl⟩ <;> decide

theorem toNat_not_surrogate (c : Char) : isTrailUnit c.toNat = false ∧ isLeadUnit c.toNat = false := by
  have valid : c.toNat < 0xD800 ∨ 0xDFFF < c.toNat ∧ c.toNat < 0x110000 := c.valid
  simp only [isTrailUnit, isLeadUnit, Bool.and_eq_false_iff, decide_eq_false_iff_not]
  omega

theorem escape_unit {c : Char} {digits : List Char} (names : HexUnit digits c.toNat)
    (rest : List Char) : escape ('u' :: digits ++ rest) = .ok (c, 5) := by
  obtain ⟨noTrail, noLead⟩ := toNat_not_surrogate c
  simp [escape, numberedEscape, (hexUnit_of_hexUnit names rest).1, noTrail, noLead, bind,
    Except.bind, Char.ofNat_toNat]

theorem escape_pair {c : Char} {first second : List Char} {lead trail : Nat}
    (leads : HexUnit first lead) (trails : HexUnit second trail)
    (isLead : 0xD800 ≤ lead ∧ lead ≤ 0xDBFF) (isTrail : 0xDC00 ≤ trail ∧ trail ≤ 0xDFFF)
    (names : c.toNat = 0x10000 + (lead - 0xD800) * 0x400 + (trail - 0xDC00)) (rest : List Char) :
    escape ('u' :: first ++ '\\' :: 'u' :: second ++ rest) = .ok (c, 11) := by
  have whole : 'u' :: first ++ '\\' :: 'u' :: second ++ rest =
      'u' :: (first ++ '\\' :: 'u' :: (second ++ rest)) := by simp
  obtain ⟨firstUnit, afterFirst⟩ := hexUnit_of_hexUnit leads ('\\' :: 'u' :: (second ++ rest))
  have noTrail : isTrailUnit lead = false := by
    simp only [isTrailUnit, Bool.and_eq_false_iff, decide_eq_false_iff_not]
    omega
  have leadUnit : isLeadUnit lead = true := by simp [isLeadUnit, isLead]
  have trailing : isTrailUnit trail = true := by simp [isTrailUnit, isTrail]
  have named : pairedChar lead trail = c := by
    rw [pairedChar, ← names]
    exact Char.ofNat_toNat c
  rw [whole]
  simp [escape, numberedEscape, firstUnit, afterFirst, noTrail, leadUnit, trailUnit,
    (hexUnit_of_hexUnit trails rest).1, trailing, named, bind, Except.bind]

theorem characters_escape {c : Char} {body rest : List Char}
    (escaped : escape (body ++ rest) = .ok (c, body.length)) (found : List Char) :
    characters found 0 ('\\' :: body ++ rest) = characters (c :: found) 0 rest := by
  rw [← characters_used (c :: found) body rest, List.cons_append, characters, if_neg (by decide),
    if_pos rfl, escaped]

theorem escape_short {letter c : Char} (listed : (letter, c) ∈ shortEscapes) (rest : List Char) :
    escape (letter :: rest) = .ok (c, 1) := by
  obtain ⟨named, noUnit⟩ := letterEscape?_of_listed listed
  unfold escape
  split
  · next empty => cases empty
  · next same =>
      obtain ⟨rfl, -⟩ := List.cons.inj same
      exact absurd rfl noUnit
  · next same =>
      obtain ⟨rfl, rfl⟩ := List.cons.inj same
      rw [named]

theorem characters_spelled_char {c : Char} {written : List Char} (spelled : SpellsChar c written)
    (found rest : List Char) :
    characters found 0 (written ++ rest) = characters (c :: found) 0 rest := by
  cases spelled with
  | plain printed noQuote noBackslash =>
      simp [characters, noQuote, noBackslash, Nat.not_lt.mpr printed]
  | short listed => exact characters_escape (escape_short listed rest) found
  | unit names =>
      apply characters_escape
      rw [escape_unit names, List.length_cons, length_of_hexUnit names]
  | @pair _ first second _ _ leads trails isLead isTrail names =>
      have count : ('u' :: first ++ '\\' :: 'u' :: second).length = 11 := by
        simp [length_of_hexUnit leads, length_of_hexUnit trails]
      have escaped := escape_pair leads trails isLead isTrail names rest
      rw [← count] at escaped
      exact characters_escape escaped found

theorem characters_spelled {chars written : List Char} (spelled : SpellsChars chars written)
    (found rest : List Char) :
    characters found 0 (written ++ '"' :: rest) = .ok (found.reverse ++ chars, rest) := by
  induction spelled generalizing found with
  | nil => simp [characters]
  | @cons c chars first written spelled _ ih =>
      rw [List.append_assoc, characters_spelled_char spelled, ih]
      simp

theorem string_spelled {value : String} {written : List Char}
    (spelled : SpellsChars value.toList written) (rest : List Char) :
    string (written ++ '"' :: rest) = .ok (value, rest) := by
  simp [string, characters_spelled spelled, bind, Except.bind]

theorem skipCharacters_unit {digits : List Char} {unit : Nat} (names : HexUnit digits unit)
    (rest : List Char) :
    skipCharacters 0 ('\\' :: 'u' :: digits ++ rest) = skipCharacters 0 rest := by
  have used := skipCharacters_used ('u' :: digits) rest
  rw [List.length_cons, length_of_hexUnit names] at used
  have read := (hexUnit_of_hexUnit names rest).1
  calc skipCharacters 0 ('\\' :: 'u' :: digits ++ rest)
      _ = skipCharacters 5 ('u' :: digits ++ rest) := by
        simp only [List.cons_append]
        rw [skipCharacters.eq_def]
        simp [read]
      _ = skipCharacters 0 rest := used

theorem skipCharacters_spelled_char {c : Char} {written : List Char}
    (spelled : SpellsChar c written) (rest : List Char) :
    skipCharacters 0 (written ++ rest) = skipCharacters 0 rest := by
  cases spelled with
  | plain printed noQuote noBackslash =>
      simp [skipCharacters, noQuote, noBackslash, Nat.not_lt.mpr printed]
  | short listed =>
      obtain ⟨named, noUnit⟩ := letterEscape?_of_listed listed
      simp [skipCharacters, named, noUnit]
  | unit names => exact skipCharacters_unit names rest
  | @pair _ first second _ _ leads trails _ _ _ =>
      rw [List.append_assoc, skipCharacters_unit leads]
      exact skipCharacters_unit trails rest

theorem skipCharacters_spelled {chars written : List Char} (spelled : SpellsChars chars written)
    (rest : List Char) : skipCharacters 0 (written ++ '"' :: rest) = .ok rest := by
  induction spelled with
  | nil => simp [skipCharacters]
  | @cons c chars first written spelled _ ih =>
      rw [List.append_assoc, skipCharacters_spelled_char spelled, ih]

end Marquee.Json.Reader
