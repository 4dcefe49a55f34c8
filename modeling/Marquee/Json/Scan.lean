import Marquee.Json.Fault

/-!
The words and strings of a JSON text. Each scanner takes the characters that are left and gives back
what it read with the characters that are left then.
-/

namespace Marquee.Json.Reader

def isSpace (c : Char) : Bool := c == ' ' || c == '\n' || c == '\t' || c == '\r'

def skipSpace (text : List Char) : List Char := text.dropWhile isSpace

def word : List Char → List Char → Except Fault (List Char)
  | [], text => .ok text
  | _ :: _, [] => .error (.here .endInValue [])
  | expected :: others, c :: rest =>
    if c = expected then word others rest else .error (.past .expectedIdent (c :: rest))

def hexDigit? (c : Char) : Option Nat :=
  if '0' ≤ c ∧ c ≤ '9' then some (c.toNat - '0'.toNat)
  else if 'a' ≤ c ∧ c ≤ 'f' then some (c.toNat - 'a'.toNat + 10)
  else if 'A' ≤ c ∧ c ≤ 'F' then some (c.toNat - 'A'.toNat + 10)
  else none

def fourDigits? : List Char → Option Nat
  | a :: b :: c :: d :: _ =>
    match hexDigit? a, hexDigit? b, hexDigit? c, hexDigit? d with
    | some a, some b, some c, some d => some (((a * 16 + b) * 16 + c) * 16 + d)
    | _, _, _, _ => none
  | _ => none

/-- The unit that four digits name. Four bytes are taken before they are looked at. -/
def hexUnit (text : List Char) : Except Fault Nat :=
  match fourDigits? text with
  | some unit => .ok unit
  | none =>
    let bytes := byteLength text
    .error (if bytes < 4 then ⟨.endInString, 0⟩ else ⟨.invalidEscape, bytes - 4⟩)

/-- The first unit of a pair, which names a character only together with a second one. -/
def isLeadUnit (unit : Nat) : Bool := 0xD800 ≤ unit && unit ≤ 0xDBFF

def isTrailUnit (unit : Nat) : Bool := 0xDC00 ≤ unit && unit ≤ 0xDFFF

def pairedChar (lead trail : Nat) : Char :=
  Char.ofNat (0x10000 + (lead - 0xD800) * 0x400 + (trail - 0xDC00))

def trailUnit (lead : Nat) : List Char → Except Fault Char
  | [] => .error (.here .endInString [])
  | ['\\'] => .error (.here .endInString [])
  | '\\' :: 'u' :: rest => do
    let trail ← hexUnit rest
    if isTrailUnit trail then
      .ok (pairedChar lead trail)
    else
      .error (.here .loneSurrogate (rest.drop 4))
  | '\\' :: c :: rest => .error (.past .unexpectedEndOfHexEscape (c :: rest))
  | c :: rest => .error (.past .unexpectedEndOfHexEscape (c :: rest))

def numberedEscape (text : List Char) : Except Fault (Char × Nat) := do
  let unit ← hexUnit text
  if isTrailUnit unit then
    .error (.here .loneSurrogate (text.drop 4))
  else if isLeadUnit unit then
    let c ← trailUnit unit (text.drop 4)
    .ok (c, 10)
  else
    .ok (Char.ofNat unit, 4)

def letterEscape? : Char → Option Char
  | '"' => some '"'
  | '\\' => some '\\'
  | '/' => some '/'
  | 'b' => some '\x08'
  | 'f' => some '\x0c'
  | 'n' => some '\n'
  | 'r' => some '\r'
  | 't' => some '\t'
  | _ => none

def escape : List Char → Except Fault (Char × Nat)
  | [] => .error (.here .endInString [])
  | 'u' :: rest => do
    let (c, used) ← numberedEscape rest
    .ok (c, used + 1)
  | letter :: rest =>
    match letterEscape? letter with
    | some c => .ok (c, 1)
    | none => .error (.past .invalidEscape (letter :: rest))

/-- Characters up to the closing quotation mark; `used` of those to come belong to an escape. -/
def characters (found : List Char) : Nat → List Char → Except Fault (List Char × List Char)
  | _, [] => .error (.here .endInString [])
  | used + 1, _ :: rest => characters found used rest
  | 0, c :: rest =>
    if c = '"' then
      .ok (found.reverse, rest)
    else if c = '\\' then
      match escape rest with
      | .ok (escaped, used) => characters (escaped :: found) used rest
      | .error fault => .error fault
    else if c.toNat < 0x20 then
      .error (.past .controlCharacter (c :: rest))
    else
      characters (c :: found) 0 rest

def string (text : List Char) : Except Fault (String × List Char) := do
  let (found, rest) ← characters [] 0 text
  .ok (String.ofList found, rest)

end Marquee.Json.Reader
