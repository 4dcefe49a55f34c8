import Mathlib.Algebra.Ring.Int.Defs
import Marquee.Json.Value

/-!
The written forms of JSON values, said without a reader and without a printer: which texts spell a
string, a number, a list or an object, with blanks between the parts and with any choice of escapes
in the strings. A value with numbers that are no 64-bit integers has none here.
-/

namespace Marquee.Json

def Blank (text : List Char) : Prop := ∀ c ∈ text, c = ' ' ∨ c = '\n' ∨ c = '\t' ∨ c = '\r'

def Padded (spells : List Char → Prop) (text : List Char) : Prop :=
  ∃ before core after, Blank before ∧ spells core ∧ Blank after ∧ text = before ++ (core ++ after)

def HexDigit (c : Char) (value : Nat) : Prop :=
  value < 16 ∧ (c = value.digitChar ∨ c = value.digitChar.toUpper)

def HexUnit (digits : List Char) (unit : Nat) : Prop :=
  ∃ a b c d i j k l, digits = [a, b, c, d] ∧ HexDigit a i ∧ HexDigit b j ∧ HexDigit c k ∧
    HexDigit d l ∧ unit = ((i * 16 + j) * 16 + k) * 16 + l

def shortEscapes : List (Char × Char) :=
  [('"', '"'), ('\\', '\\'), ('/', '/'), ('b', '\x08'), ('f', '\x0c'), ('n', '\n'), ('r', '\r'),
    ('t', '\t')]

inductive SpellsChar : Char → List Char → Prop where
  | plain {c : Char} (printed : 0x20 ≤ c.toNat) (noQuote : c ≠ '"') (noBackslash : c ≠ '\\') :
    SpellsChar c [c]
  | short {letter c : Char} (listed : (letter, c) ∈ shortEscapes) : SpellsChar c ['\\', letter]
  | unit {c : Char} {digits : List Char} (names : HexUnit digits c.toNat) :
    SpellsChar c ('\\' :: 'u' :: digits)
  | pair {c : Char} {first second : List Char} {lead trail : Nat} (leads : HexUnit first lead)
    (trails : HexUnit second trail) (isLead : 0xD800 ≤ lead ∧ lead ≤ 0xDBFF)
    (isTrail : 0xDC00 ≤ trail ∧ trail ≤ 0xDFFF)
    (names : c.toNat = 0x10000 + (lead - 0xD800) * 0x400 + (trail - 0xDC00)) :
    SpellsChar c ('\\' :: 'u' :: first ++ '\\' :: 'u' :: second)

inductive SpellsChars : List Char → List Char → Prop where
  | nil : SpellsChars [] []
  | cons {c : Char} {chars written text : List Char} (first : SpellsChar c written)
    (others : SpellsChars chars text) : SpellsChars (c :: chars) (written ++ text)

def SpellsString (value : String) (text : List Char) : Prop :=
  ∃ written, SpellsChars value.toList written ∧ text = '"' :: (written ++ ['"'])

def IsWord (value : Int) : Prop := -2 ^ 63 ≤ value ∧ value < 2 ^ 64

def SpellsMember (key : String) (spells : List Char → Prop) (text : List Char) : Prop :=
  ∃ name item, Padded (SpellsString key) name ∧ Padded spells item ∧ text = name ++ ':' :: item

def Separated (pieces : List (List Char)) (text : List Char) : Prop :=
  match pieces with
  | [] => Blank text
  | first :: others => text = first ++ others.flatMap (',' :: ·)

mutual

def Spells : Json → List Char → Prop
  | .null, text => text = ['n', 'u', 'l', 'l']
  | .bool true, text => text = ['t', 'r', 'u', 'e']
  | .bool false, text => text = ['f', 'a', 'l', 's', 'e']
  | .number (.int value), text => IsWord value ∧ text = (toString value).toList
  | .number (.float _), _ => False
  | .string value, text => SpellsString value text
  | .array items, text =>
    ∃ pieces inner, SpellsItems items pieces ∧ Separated pieces inner ∧
      text = '[' :: (inner ++ [']'])
  | .object members, text =>
    ∃ pieces inner, SpellsMembers members pieces ∧ Separated pieces inner ∧
      text = '\x7b' :: (inner ++ ['\x7d'])

def SpellsItems : List Json → List (List Char) → Prop
  | [], pieces => pieces = []
  | item :: items, pieces =>
    ∃ piece others, Padded (Spells item) piece ∧ SpellsItems items others ∧ pieces = piece :: others

def SpellsMembers : List (String × Json) → List (List Char) → Prop
  | [], pieces => pieces = []
  | (key, item) :: members, pieces =>
    ∃ piece others, SpellsMember key (Spells item) piece ∧ SpellsMembers members others ∧
      pieces = piece :: others

end

def IsTextOf (value : Json) (text : String) : Prop := Padded (Spells value) text.toList

mutual

def depth : Json → Nat
  | .array items => depthOfItems items + 1
  | .object members => depthOfMembers members + 1
  | _ => 0

def depthOfItems : List Json → Nat
  | [] => 0
  | item :: items => max item.depth (depthOfItems items)

def depthOfMembers : List (String × Json) → Nat
  | [] => 0
  | (_, item) :: members => max item.depth (depthOfMembers members)

end

mutual

/-- The value that is meant: of several members with one key the last one counts. -/
def settled : Json → Json
  | .array items => .array (settledItems items)
  | .object members => .object (settledMembers [] members)
  | other => other

def settledItems : List Json → List Json
  | [] => []
  | item :: items => item.settled :: settledItems items

def settledMembers (found : List (String × Json)) : List (String × Json) → List (String × Json)
  | [] => found
  | (key, item) :: members => settledMembers (put key item.settled found) members

end

theorem Blank.append {before after : List Char} (first : Blank before) (second : Blank after) :
    Blank (before ++ after) := by
  intro c member
  rcases List.mem_append.mp member with early | late
  · exact first c early
  · exact second c late

theorem blank_nil : Blank [] := nofun

theorem Padded.of_core {spells : List Char → Prop} {text : List Char} (core : spells text) :
    Padded spells text :=
  ⟨[], text, [], blank_nil, core, blank_nil, by simp⟩

end Marquee.Json
