import Mathlib.Data.List.Forall2
import Marquee.Proofs.Json.Spelling

/-!
The written forms of a document of sections, said without a reader: which texts spell a key, an
integer, a string, a line and all lines, with blanks, comments and empty lines wherever they may
stand, with quoted keys, and with any choice of escapes in the strings.
-/

namespace Marquee.Toml

inductive Given where
  | integer (value : Int)
  | string (text : String)
deriving DecidableEq, Repr

def IsLong (value : Int) : Prop := -2 ^ 63 ≤ value ∧ value < 2 ^ 63

instance (value : Int) : Decidable (IsLong value) :=
  inferInstanceAs (Decidable (-2 ^ 63 ≤ value ∧ value < 2 ^ 63))

abbrev Sheet := List (String × List (String × Given))

def Blank (text : List Char) : Prop := ∀ c ∈ text, c = ' ' ∨ c = '\t'

def Plain (c : Char) : Prop := c = '\t' ∨ 0x20 ≤ c.toNat ∧ c.toNat ≠ 0x7f

instance (text : List Char) : Decidable (Blank text) := List.decidableBAll _ text

instance (c : Char) : Decidable (Plain c) :=
  inferInstanceAs (Decidable (c = '\t' ∨ 0x20 ≤ c.toNat ∧ c.toNat ≠ 0x7f))

def HexNumber (digits : List Char) (number : Nat) : Prop :=
  ∃ values, List.Forall₂ Json.HexDigit digits values ∧
    number = values.foldl (fun number value => number * 16 + value) 0

def shortEscapes : List (Char × Char) :=
  [('b', '\x08'), ('t', '\t'), ('n', '\n'), ('f', '\x0c'), ('r', '\r'), ('"', '"'), ('\\', '\\')]

inductive SpellsChar : Char → List Char → Prop where
  | plain {c : Char} (plain : Plain c) (noQuote : c ≠ '"') (noBackslash : c ≠ '\\') :
    SpellsChar c [c]
  | short {letter c : Char} (listed : (letter, c) ∈ shortEscapes) : SpellsChar c ['\\', letter]
  | four {c : Char} {digits : List Char} (names : HexNumber digits c.toNat)
    (count : digits.length = 4) : SpellsChar c ('\\' :: 'u' :: digits)
  | eight {c : Char} {digits : List Char} (names : HexNumber digits c.toNat)
    (count : digits.length = 8) : SpellsChar c ('\\' :: 'U' :: digits)

def SpellsString (value : String) (text : List Char) : Prop :=
  ∃ pieces, List.Forall₂ SpellsChar value.toList pieces ∧ text = '"' :: (pieces.flatten ++ ['"'])

def SpellsBare (key : String) (text : List Char) : Prop :=
  text = key.toList ∧ text ≠ [] ∧ ∀ c ∈ text, c.isAlphanum = true ∨ c = '_' ∨ c = '-'

def SpellsKey (key : String) (text : List Char) : Prop :=
  SpellsBare key text ∨ SpellsString key text

def Given.Spells : Given → List Char → Prop
  | .integer value, text => text = (toString value).toList
  | .string value, text => SpellsString value text

inductive Line where
  | header (name : String)
  | entry (key : String) (value : Given)

def Line.Spells : Line → List Char → Prop
  | .header name, text =>
    ∃ before key after, Blank before ∧ SpellsKey name key ∧ Blank after ∧
      text = '[' :: (before ++ (key ++ (after ++ [']'])))
  | .entry key value, text =>
    ∃ name before after written, SpellsKey key name ∧ Blank before ∧ Blank after ∧
      value.Spells written ∧ text = name ++ (before ++ '=' :: (after ++ written))

def Remainder (text : List Char) : Prop :=
  ∃ blanks comment, Blank blanks ∧ (comment = [] ∨ ∃ words, (∀ c ∈ words, Plain c) ∧
    comment = '#' :: words) ∧ text = blanks ++ comment

def LineEnd (text : List Char) : Prop := text = ['\n'] ∨ text = ['\r', '\n']

/-- Lines with others between them that say nothing. The last one may end with the text. -/
inductive SpellsLines : List Line → List Char → Prop where
  | last {remainder : List Char} (remains : Remainder remainder) : SpellsLines [] remainder
  | lastLine {line : Line} {before core remainder : List Char} (blank : Blank before)
    (spelled : line.Spells core) (remains : Remainder remainder) :
    SpellsLines [line] (before ++ (core ++ remainder))
  | empty {lines : List Line} {remainder ending text : List Char} (remains : Remainder remainder)
    (ends : LineEnd ending) (others : SpellsLines lines text) :
    SpellsLines lines (remainder ++ (ending ++ text))
  | line {line : Line} {lines : List Line} {before core remainder ending text : List Char}
    (blank : Blank before) (spelled : line.Spells core) (remains : Remainder remainder)
    (ends : LineEnd ending) (others : SpellsLines lines text) :
    SpellsLines (line :: lines) (before ++ (core ++ (remainder ++ (ending ++ text))))

def Sheet.lines (sheet : Sheet) : List Line :=
  sheet.flatMap fun part => .header part.1 :: part.2.map fun entry => .entry entry.1 entry.2

def Sheet.IsTextOf (sheet : Sheet) (text : String) : Prop := SpellsLines sheet.lines text.toList

theorem blank_nil : Blank [] := by
  simp [Blank]

theorem remainder_nil : Remainder [] := ⟨[], [], blank_nil, Or.inl rfl, rfl⟩

section Plain

def isBare (key : String) : Bool :=
  !key.toList.isEmpty && key.toList.all fun c => c.isAlphanum || c == '_' || c == '-'

def Given.isPlain : Given → Bool
  | .integer _ => true
  | .string text => text.toList.all fun c => decide (Plain c) && c != '"' && c != '\\'

def Given.plain : Given → List Char
  | .integer value => (toString value).toList
  | .string text => '"' :: (text.toList ++ ['"'])

def Line.isPlain : Line → Bool
  | .header name => isBare name
  | .entry key value => isBare key && value.isPlain

def Line.plain : Line → List Char
  | .header name => '[' :: (name.toList ++ [']'])
  | .entry key value => key.toList ++ ' ' :: '=' :: ' ' :: value.plain

theorem spellsKey_bare {key : String} (bare : isBare key = true) : SpellsKey key key.toList := by
  simp only [isBare, Bool.and_eq_true, Bool.not_eq_true', List.isEmpty_eq_false_iff,
    List.all_eq_true, Bool.or_eq_true, beq_iff_eq, or_assoc] at bare
  exact Or.inl ⟨rfl, bare⟩

theorem Given.spells_plain {value : Given} (plain : value.isPlain = true) :
    value.Spells value.plain := by
  cases value with
  | integer value => rfl
  | string text =>
      refine ⟨text.toList.map ([·]), ?_, ?_⟩
      · rw [List.forall₂_map_right_iff, List.forall₂_same]
        intro c member
        have known := List.all_eq_true.mp plain c member
        simp only [Bool.and_eq_true, decide_eq_true_eq, bne_iff_ne] at known
        exact .plain known.1.1 known.1.2 known.2
      · simp [Given.plain, ← List.flatMap_def]

theorem Line.spells_plain {line : Line} (plain : line.isPlain = true) :
    line.Spells line.plain := by
  cases line with
  | header name => exact ⟨[], _, [], blank_nil, spellsKey_bare plain, blank_nil, rfl⟩
  | entry key value =>
      obtain ⟨bare, verbatim⟩ := Bool.and_eq_true_iff.mp plain
      exact ⟨_, [' '], [' '], _, spellsKey_bare bare, by decide, by decide,
        Given.spells_plain verbatim, rfl⟩

/-- Lines that need no quotation marks and no escapes spell themselves, one after the other. -/
theorem spellsLines_plain (lines : List Line) (plain : lines.all Line.isPlain = true) :
    SpellsLines lines (lines.flatMap fun line => line.plain ++ ['\n']) := by
  induction lines with
  | nil => exact .last remainder_nil
  | cons line lines ih =>
      rw [List.all_cons, Bool.and_eq_true] at plain
      rw [List.flatMap_cons, List.append_assoc]
      exact .line blank_nil (Line.spells_plain plain.1) remainder_nil (Or.inl rfl) (ih plain.2)

theorem Sheet.isTextOf_plain {sheet : Sheet} {text : String}
    (plain : sheet.lines.all Line.isPlain = true)
    (same : text.toList = sheet.lines.flatMap fun line => line.plain ++ ['\n']) :
    sheet.IsTextOf text := by
  rw [Sheet.IsTextOf, same]
  exact spellsLines_plain _ plain

end Plain

end Marquee.Toml
